import ShapeFlow.Proofs.Outcome
import ShapeFlow.Proofs.Text.Numeral
import ShapeFlow.Rule.Parameter
import ShapeFlow.Run.Config

/-!
Shapes as texts. A text is read as a shape exactly if it writes its dimensions with commas between them and
blanks around them, so that every printed shape is read back. A request is split at its first equals sign,
and a list in a parameter is read as a shape is, unless an item is blank.
-/

namespace ShapeFlow

/-- The text writes the dimensions in order, with commas between them. -/
def WritesShape (text : List Char) (shape : Shape) : Prop :=
  ∃ items, items ≠ [] ∧ [','].intercalate items = text ∧ List.Forall₂ Text.WritesPadded items shape

/-- A dimension and the blanks that are printed around it. -/
structure PaddedDim where
  before : String
  dim : Dim
  after : String
  blank_before : Text.Blank before.toList
  blank_after : Text.Blank after.toList

namespace PaddedDim

def text (item : PaddedDim) : String :=
  item.before ++ item.dim.text ++ item.after

def join (items : List PaddedDim) : String :=
  String.intercalate "," (items.map text)

theorem writesPadded (item : PaddedDim) : Text.WritesPadded item.text.toList item.dim := by
  have hdigits : Text.WritesDim item.dim.text.toList item.dim := by
    refine ⟨Nat.toDigits 10 item.dim.toNat, Text.decimal_toDigits _, .inl ?_⟩
    rw [Dim.text, String.toList_ofList]
  refine ⟨_, _, _, item.blank_before, hdigits, item.blank_after, ?_⟩
  rw [text, String.toList_append, String.toList_append]

theorem writesShape_join {items : List PaddedDim} (h : items ≠ []) :
    WritesShape (join items).toList (items.map dim) := by
  refine ⟨items.map fun item => item.text.toList, by simpa using h, ?_, ?_⟩
  · rw [join, String.toList_intercalate, List.map_map]
    rfl
  · rw [List.forall₂_map_left_iff, List.forall₂_map_right_iff, List.forall₂_same]
    exact fun item _ => item.writesPadded

end PaddedDim

/-! ### Shapes -/

section

variable {text : String} {shape : Shape}

private theorem parseShape_eq_ok_iff_mapM : parseShape text = .ok shape ↔
    ((text.toList.splitOn ',').mapM fun item => Text.dim? (Text.trim item)) = some shape := by
  unfold parseShape
  split <;> simp_all

theorem parseShape_eq_ok_iff : parseShape text = .ok shape ↔ WritesShape text.toList shape := by
  simp only [parseShape_eq_ok_iff_mapM, mapM_eq_some_iff, Text.dim?_trim_eq_some_iff]
  constructor
  · exact fun h => ⟨_, List.splitOn_ne_nil _ _, List.intercalate_splitOn ',', h⟩
  · rintro ⟨items, hne, htext, h⟩
    have hcomma : ∀ item ∈ items, ',' ∉ item := by
      intro item hitem
      obtain ⟨dim, -, hdim⟩ := exists_left_of_forall₂ h.flip hitem
      exact Text.WritesPadded.comma_not_mem hdim
    rwa [← htext, List.splitOn_intercalate ',' hcomma hne]

theorem parseShape_eq_error_iff {cause : ConfigError} : parseShape text = .error cause ↔
    (∀ shape, ¬ WritesShape text.toList shape) ∧ cause = .invalidShape text := by
  simp only [← parseShape_eq_ok_iff]
  unfold parseShape
  split <;> simp [eq_comm]

theorem parseShape_join {items : List PaddedDim} (h : items ≠ []) :
    parseShape (PaddedDim.join items) = .ok (items.map PaddedDim.dim) :=
  parseShape_eq_ok_iff.2 (PaddedDim.writesShape_join h)

end

/-! ### Requests -/

section

variable {text before after : String}

theorem parseOverride_of_not_mem (h : '=' ∉ text.toList) :
    parseOverride text = .error (.invalidOverride text) := by
  have hrest : text.toList.dropWhile (· != '=') = [] := by
    rw [List.dropWhile_eq_nil_iff]
    exact fun c hc => bne_iff_ne.2 fun heq => h (heq ▸ hc)
  rw [parseOverride, List.span_eq_takeWhile_dropWhile, hrest]

/-- What stands behind the first equals sign is the shape, further equals signs included. -/
theorem parseOverride_append (h : '=' ∉ before.toList) :
    parseOverride (before ++ "=" ++ after) =
      if Text.Blank before.toList then .error (.invalidOverride (before ++ "=" ++ after))
      else (String.ofList (Text.trim before.toList), ·) <$> parseShape after := by
  have hbefore : ∀ c ∈ before.toList, (c != '=') = true := fun c hc => bne_iff_ne.2 fun heq => h (heq ▸ hc)
  have hspan : (before ++ "=" ++ after).toList.span (· != '=') =
      (before.toList, '=' :: after.toList) := by
    rw [List.span_eq_takeWhile_dropWhile, String.toList_append, String.toList_append, List.append_assoc,
      List.takeWhile_append_of_pos hbefore, List.dropWhile_append_of_pos hbefore]
    simp
  have hname : (Text.trim before.toList).isEmpty = true ↔ Text.Blank before.toList := by
    rw [List.isEmpty_iff, Text.trim_eq_nil_iff]
  simp only [parseOverride, hspan, hname, String.ofList_toList]
  split
  · rfl
  · cases parseShape after <;> rfl

theorem parseOverride_cases (text : String) :
    '=' ∉ text.toList ∧ parseOverride text = .error (.invalidOverride text) ∨
      ∃ before after, text = before ++ "=" ++ after ∧ '=' ∉ before.toList ∧ parseOverride text =
        if Text.Blank before.toList then .error (.invalidOverride text)
        else (String.ofList (Text.trim before.toList), ·) <$> parseShape after := by
  by_cases hsign : '=' ∈ text.toList
  · obtain ⟨before, after, htext, hbefore⟩ := List.eq_append_cons_of_mem hsign
    have hbefore : '=' ∉ (String.ofList before).toList := by rwa [String.toList_ofList]
    have htext : text = String.ofList before ++ "=" ++ String.ofList after := by
      rw [← String.toList_inj, htext]
      simp
    exact .inr ⟨_, _, htext, hbefore, htext ▸ parseOverride_append hbefore⟩
  · exact .inl ⟨hsign, parseOverride_of_not_mem hsign⟩

theorem parseOverride_join {name : String} {items : List PaddedDim} (hname : name ≠ "")
    (htrim : Text.trim name.toList = name.toList) (hsign : '=' ∉ name.toList) (hitems : items ≠ []) :
    parseOverride (name ++ "=" ++ PaddedDim.join items) = .ok (name, items.map PaddedDim.dim) := by
  have hblank : ¬ Text.Blank name.toList := by
    rw [← Text.trim_eq_nil_iff, htrim, String.toList_eq_nil_iff]
    exact hname
  rw [parseOverride_append hsign, if_neg hblank, htrim, String.ofList_toList, parseShape_join hitems, map_ok]

end

/-! ### Lists in parameters -/

theorem parseList_eq_ok_iff {name text : String} {shape : Shape}
    (h : ∀ item ∈ text.toList.splitOn ',', ¬ Text.Blank item) :
    Rule.parseList Text.dim? name text = .ok shape ↔ parseShape text = .ok shape := by
  have hitems : Rule.listItems text.toList = (text.toList.splitOn ',').map Text.trim := by
    rw [Rule.listItems, List.filter_eq_self]
    intro item hitem
    obtain ⟨source, hsource, rfl⟩ := List.mem_map.1 hitem
    simpa [Text.trim_eq_nil_iff] using h source hsource
  have hread : Rule.parseList Text.dim? name text = .ok shape ↔
      (Rule.listItems text.toList).mapM Text.dim? = some shape := by
    unfold Rule.parseList
    split <;> simp_all
  rw [hread, hitems, List.mapM_map, parseShape_eq_ok_iff_mapM]
  rfl

-- a blank item is left out of a list, but there is no dimension without digits
example : Rule.parseList Text.dim? "order" "1, ,2" = .ok [1, 2] ∧
    parseShape "1, ,2" = .error (.invalidShape "1, ,2") := by
  decide +kernel

/-! ### All texts -/

/-- A shape is read from the texts that write it, and from no others; what is printed for a shape that is not
empty is one of them. A request is the name before the first equals sign with the shape behind it. Lists in
parameters are read as shapes are, unless an item is blank. -/
theorem parseShape_exact :
    (∀ text shape, parseShape text = .ok shape ↔ WritesShape text.toList shape) ∧
    (∀ text cause, parseShape text = .error cause ↔
      (∀ shape, ¬ WritesShape text.toList shape) ∧ cause = .invalidShape text) ∧
    (∀ items : List PaddedDim, items ≠ [] →
      parseShape (PaddedDim.join items) = .ok (items.map PaddedDim.dim)) ∧
    (∀ (name : String) (items : List PaddedDim), name ≠ "" → Text.trim name.toList = name.toList →
      '=' ∉ name.toList → items ≠ [] →
        parseOverride (name ++ "=" ++ PaddedDim.join items) = .ok (name, items.map PaddedDim.dim)) ∧
    (∀ text, '=' ∉ text.toList ∧ parseOverride text = .error (.invalidOverride text) ∨
      ∃ before after, text = before ++ "=" ++ after ∧ '=' ∉ before.toList ∧ parseOverride text =
        if Text.Blank before.toList then .error (.invalidOverride text)
        else (String.ofList (Text.trim before.toList), ·) <$> parseShape after) ∧
    ∀ name text shape, (∀ item ∈ text.toList.splitOn ',', ¬ Text.Blank item) →
      (Rule.parseList Text.dim? name text = .ok shape ↔ parseShape text = .ok shape) :=
  ⟨fun _ _ => parseShape_eq_ok_iff, fun _ _ => parseShape_eq_error_iff, fun _ => parseShape_join,
    fun _ _ => parseOverride_join, parseOverride_cases, fun _ _ _ => parseList_eq_ok_iff⟩

/-- Two dimensions with blanks around them, one of them the greatest of all. -/
def samplePadded : List PaddedDim :=
  [⟨" ", 2, "\t", by decide, by decide⟩, ⟨"\u3000", 18446744073709551615, "", by decide, by decide⟩]

theorem samplePadded_parse :
    parseShape (PaddedDim.join samplePadded) = .ok [2, 18446744073709551615] ∧
    parseOverride ("data" ++ "=" ++ PaddedDim.join samplePadded) =
      .ok ("data", [2, 18446744073709551615]) ∧
    (Rule.parseList Text.dim? "order" "+1, 02" = .ok [1, 2] ↔ parseShape "+1, 02" = .ok [1, 2]) := by
  obtain ⟨-, -, hjoin, hrequest, -, hlist⟩ := parseShape_exact
  exact ⟨hjoin samplePadded (by decide), hrequest "data" samplePadded (by decide) (by decide +kernel)
    (by decide) (by decide), hlist "order" "+1, 02" [1, 2] (by decide +kernel)⟩

end ShapeFlow
