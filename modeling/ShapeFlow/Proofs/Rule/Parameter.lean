import ShapeFlow.Proofs.Outcome
import ShapeFlow.Rule.Parameter

/-!
What it means that a parameter could be read.
-/

namespace ShapeFlow

namespace Text

theorem ofRange?_lt {number value : Int} (h : ofRange? number = some value) :
    value < 0x8000000000000000 := by
  unfold ofRange? at h
  split at h
  · next hrange =>
    cases h
    exact hrange.2
  · cases h

theorem integer?_lt {text : List Char} {value : Int} (h : integer? text = some value) :
    value < 0x8000000000000000 := by
  unfold integer? at h
  split at h <;>
  · obtain ⟨number, -, hvalue⟩ := Option.bind_eq_some_iff.1 h
    exact ofRange?_lt hvalue

end Text

namespace Rule

variable {α : Type} {parse : List Char → Option α} {params : Params} {name : String}

theorem required_eq_ok_iff {given : Option α} {value : α} :
    required name given = .ok value ↔ given = some value := by
  cases given <;> simp [required]

theorem parseScalar_eq_ok_iff {text : String} {value : α} :
    parseScalar parse name text = .ok value ↔ parse (Text.trim text.toList) = some value := by
  unfold parseScalar
  split <;> simp_all

theorem scalar?_eq_ok_iff {given : Option α} : scalar? parse params name = .ok given ↔
    params.get? name = none ∧ given = none ∨ ∃ text value, params.get? name = some text ∧
      parse (Text.trim text.toList) = some value ∧ given = some value := by
  unfold scalar?
  cases params.get? name with
  | none => simp [eq_comm]
  | some text =>
    simp only [map_eq_ok_iff, parseScalar_eq_ok_iff, reduceCtorEq, false_and, false_or]
    constructor
    · rintro ⟨value, hvalue, rfl⟩
      exact ⟨text, value, rfl, hvalue, rfl⟩
    · rintro ⟨_, value, ⟨⟩, hvalue, rfl⟩
      exact ⟨value, hvalue, rfl⟩

/-- Every item of a list that could be read stands in its text. -/
theorem exists_item_of_list? {items : List α} (h : list? parse params name = .ok (some items)) {item : α}
    (hitem : item ∈ items) : ∃ text, parse text = some item := by
  unfold list? parseList at h
  split at h
  · cases h
  · split at h
    · next hparsed =>
      cases h
      obtain ⟨text, -, htext⟩ := exists_item_of_mapM_some hparsed hitem
      exact ⟨text, htext⟩
    · cases h

end Rule

end ShapeFlow
