import ShapeFlow.CommandLine.Program
import ShapeFlow.Proofs.Run.ShapeText

/-!
The text that a run prints: a line for the network and one for each of its layers, exactly if none of the
names in it breaks its line. The line of a layer shows its shapes, so that layers with other shapes have
other lines, whatever their names are.
-/

namespace ShapeFlow

/-! ### Pieces between separators -/

section

variable {α : Type} [BEq α] [LawfulBEq α] {separator : α} {pieces : List (List α)} {piece text : List α}

theorem not_mem_of_mem_splitOn (h : piece ∈ text.splitOn separator) : separator ∉ piece := by
  induction text generalizing piece with
  | nil =>
    rw [List.splitOn_eq_singleton List.not_mem_nil, List.mem_singleton] at h
    rw [h]
    exact List.not_mem_nil
  | cons letter text ih =>
    obtain ⟨first, others, hsplit⟩ := List.exists_cons_of_ne_nil (List.splitOn_ne_nil separator text)
    rw [List.splitOn_cons_eq_if_modifyHead, hsplit, List.modifyHead_cons] at h
    rw [hsplit] at ih
    split at h
    · rcases List.mem_cons.1 h with rfl | h
      · exact List.not_mem_nil
      · exact ih h
    · next hletter =>
      rcases List.mem_cons.1 h with rfl | h
      · have hne : separator ≠ letter := fun heq => hletter (beq_iff_eq.2 heq.symm)
        exact List.not_mem_cons_of_ne_of_not_mem hne (ih List.mem_cons_self)
      · exact ih (List.mem_cons_of_mem _ h)

theorem splitOn_flatMap_append (h : ∀ piece ∈ pieces, separator ∉ piece) (text : List α) :
    (pieces.flatMap (· ++ [separator]) ++ text).splitOn separator = pieces ++ text.splitOn separator := by
  induction pieces with
  | nil => rfl
  | cons piece rest ih =>
    obtain ⟨hpiece, hrest⟩ := List.forall_mem_cons.1 h
    rw [List.flatMap_cons, List.append_assoc, List.append_assoc, List.singleton_append,
      List.splitOn_append_cons_self_of_not_mem hpiece, ih hrest, List.cons_append]

/-- Pieces that are closed by a separator are found again exactly if there is none inside them. -/
theorem splitOn_flatMap_iff : (pieces.flatMap (· ++ [separator])).splitOn separator = pieces ++ [[]] ↔
    ∀ piece ∈ pieces, separator ∉ piece := by
  constructor
  · intro h piece hpiece
    exact not_mem_of_mem_splitOn (h ▸ List.mem_append_left _ hpiece)
  · intro h
    have hsplit := splitOn_flatMap_append h []
    rwa [List.append_nil, List.splitOn_eq_singleton List.not_mem_nil] at hsplit

end

/-! ### Shapes -/

namespace Shape

/-- The dimensions as they are printed between the brackets. -/
def dimsText (shape : Shape) : String :=
  String.intercalate ", " (shape.map Dim.text)

theorem text_eq (shape : Shape) : shape.text = "[" ++ shape.dimsText ++ "]" := rfl

/-- A blank behind each comma is one before each dimension but the first. -/
theorem intercalate_comma_blank (first : String) (rest : List String) :
    String.intercalate ", " (first :: rest) = String.intercalate "," (first :: rest.map (" " ++ ·)) := by
  have hseparator : ", " = "," ++ " " := rfl
  induction rest generalizing first with
  | nil => rw [List.map_nil, String.intercalate_singleton, String.intercalate_singleton]
  | cons next rest ih =>
    rw [String.intercalate_cons_cons, ih next, List.map_cons, String.intercalate_cons_cons]
    cases rest with
    | nil =>
      simp only [List.map_nil, String.intercalate_singleton, hseparator, String.append_assoc]
    | cons last rest =>
      simp only [List.map_cons, String.intercalate_cons_cons, hseparator, String.append_assoc]

/-- What is printed between the brackets is read back as the shape. -/
theorem parseShape_dimsText {shape : Shape} (h : shape ≠ []) : parseShape shape.dimsText = .ok shape := by
  obtain ⟨first, rest, rfl⟩ := List.exists_cons_of_ne_nil h
  let items : List PaddedDim := ⟨"", first, "", by decide, by decide⟩ ::
    rest.map fun dim => ⟨" ", dim, "", by decide, by decide⟩
  have htext : dimsText (first :: rest) = PaddedDim.join items := by
    simp only [dimsText, items, PaddedDim.join, PaddedDim.text, List.map_cons, intercalate_comma_blank,
      List.map_map, Function.comp_def, String.empty_append, String.append_empty]
  have hdims : items.map PaddedDim.dim = first :: rest := by
    simp only [items, List.map_cons, List.map_map, Function.comp_def, List.map_id_fun', id]
  rw [htext, parseShape_join (List.cons_ne_nil _ _), hdims]

theorem dimsText_injective : Function.Injective dimsText := by
  have hread : ∀ shape : Shape, (parseShape shape.dimsText).toOption.getD [] = shape := by
    intro shape
    cases shape with
    | nil => rfl
    | cons first rest =>
      rw [parseShape_dimsText (List.cons_ne_nil first rest)]
      rfl
  intro a b h
  calc
    a = (parseShape a.dimsText).toOption.getD [] := (hread a).symm
    _ = (parseShape b.dimsText).toOption.getD [] := by rw [h]
    _ = b := hread b

end Shape

namespace CommandLine

section

variable {letter : Char}

theorem not_mem_intercalate {separator : String} {texts : List String}
    (hseparator : letter ∉ separator.toList) (h : ∀ text ∈ texts, letter ∉ text.toList) :
    letter ∉ (String.intercalate separator texts).toList := by
  induction texts with
  | nil => simp
  | cons text rest ih =>
    obtain ⟨htext, hrest⟩ := List.forall_mem_cons.1 h
    cases rest with
    | nil => rwa [String.intercalate_singleton]
    | cons next rest =>
      simp only [String.intercalate_cons_cons, String.toList_append, List.mem_append, not_or]
      exact ⟨⟨htext, hseparator⟩, ih hrest⟩

/-- Between the brackets there are digits, commas and blanks. -/
theorem not_mem_dimsText (hdigit : letter.isDigit = false) (hmark : letter ∉ ", ".toList) (shape : Shape) :
    letter ∉ shape.dimsText.toList := by
  refine not_mem_intercalate hmark (List.forall_mem_map.2 fun dim _ hmem => ?_)
  rw [Dim.text, String.toList_ofList] at hmem
  rw [Nat.isDigit_of_mem_toDigits (by decide) (by decide) hmem] at hdigit
  cases hdigit

theorem not_mem_formatShapes (hdigit : letter.isDigit = false) (hmark : letter ∉ "[, ]-".toList)
    (shapes : List Shape) : letter ∉ (formatShapes shapes).toList := by
  have hfree : ∀ text : String, text.toList ⊆ "[, ]-".toList → letter ∉ text.toList :=
    fun text hsub hmem => hmark (hsub hmem)
  unfold formatShapes
  split
  · exact hfree "-" (by decide)
  · refine not_mem_intercalate (hfree " " (by decide)) (List.forall_mem_map.2 fun shape _ => ?_)
    have hdims := not_mem_dimsText hdigit (hfree ", " (by decide)) shape
    simp only [Shape.text_eq, String.toList_append, List.mem_append, not_or]
    exact ⟨⟨hfree "[" (by decide), hdims⟩, hfree "]" (by decide)⟩

end

/-- Printed shapes without their closing brackets. -/
def openings : List Shape → List (List Char)
  | [] => []
  | shape :: rest => ('[' :: shape.dimsText.toList) ::
      rest.map fun shape => ' ' :: '[' :: shape.dimsText.toList

theorem openings_injective : Function.Injective openings := by
  intro a b h
  cases a with
  | nil =>
    cases b with
    | nil => rfl
    | cons shape rest => cases h
  | cons shape rest =>
    cases b with
    | nil => cases h
    | cons other others =>
      obtain ⟨hshape, hrest⟩ := List.cons.inj h
      have hdims : Function.Injective fun shape : Shape => ' ' :: '[' :: shape.dimsText.toList :=
        fun _ _ heq => Shape.dimsText_injective (String.toList_inj.1 (List.cons.inj (List.cons.inj heq).2).2)
      rw [Shape.dimsText_injective (String.toList_inj.1 (List.cons.inj hshape).2),
        List.map_injective_iff.2 hdims hrest]

theorem toList_intercalate_text (shape : Shape) (rest : List Shape) :
    (String.intercalate " " ((shape :: rest).map Shape.text)).toList =
      (openings (shape :: rest)).flatMap (· ++ [']']) := by
  have htext : ∀ shape : Shape, shape.text.toList = '[' :: shape.dimsText.toList ++ [']'] := by
    intro shape
    simp [Shape.text_eq]
  induction rest generalizing shape with
  | nil =>
    rw [List.map_singleton, String.intercalate_singleton, htext]
    simp [openings]
  | cons next rest ih =>
    rw [List.map_cons, List.map_cons, String.intercalate_cons_cons, ← List.map_cons, String.toList_append, ih,
      String.toList_append, htext]
    simp [openings]

/-- Shapes that are printed are found again between the closing brackets, whatever stands behind them. -/
theorem splitOn_formatShapes {text : List Char} (h : ']' ∉ text) (shapes : List Shape) :
    ∃ last, ((formatShapes shapes).toList ++ text).splitOn ']' = openings shapes ++ [last] := by
  cases shapes with
  | nil => exact ⟨'-' :: text, List.splitOn_eq_singleton (List.not_mem_cons_of_ne_of_not_mem (by decide) h)⟩
  | cons shape rest =>
    have hbracket : ∀ shape : Shape, ']' ∉ shape.dimsText.toList := not_mem_dimsText (by decide) (by decide)
    have hopen : ∀ piece ∈ openings (shape :: rest), ']' ∉ piece := by
      rw [openings, List.forall_mem_cons, List.forall_mem_map]
      exact ⟨by simpa using hbracket shape, fun shape _ => by simpa using hbracket shape⟩
    refine ⟨text, ?_⟩
    rw [formatShapes, if_neg (by simp), toList_intercalate_text, splitOn_flatMap_append hopen,
      List.splitOn_eq_singleton h]

theorem eq_of_formatShapes_append {a b : List Shape} {left right : List Char} (hleft : ']' ∉ left)
    (hright : ']' ∉ right) (h : (formatShapes a).toList ++ left = (formatShapes b).toList ++ right) :
    a = b := by
  obtain ⟨_, ha⟩ := splitOn_formatShapes hleft a
  obtain ⟨_, hb⟩ := splitOn_formatShapes hright b
  rw [h, hb] at ha
  exact openings_injective (List.append_inj_left' ha.symm rfl)

/-! ### Lines -/

theorem splitOn_layerLine (layer : Layer) : ∃ before, (layerLine layer).toList.splitOn ':' =
    before ++ [(" " ++ padRight 32 (formatShapes layer.inputShapes) ++ " out").toList,
      (" " ++ formatShapes layer.outputShapes).toList] := by
  have hcolon : ∀ shapes, ':' ∉ (formatShapes shapes).toList := not_mem_formatShapes (by decide) (by decide)
  have hin : ':' ∉ (" " ++ padRight 32 (formatShapes layer.inputShapes) ++ " out").toList := by
    simp [padRight, hcolon]
  have hout : ':' ∉ (" " ++ formatShapes layer.outputShapes).toList := by
    simp [hcolon]
  have hline : (layerLine layer).toList =
      ("  " ++ padRight 24 layer.name ++ " " ++ padRight 18 layer.typeName ++ " in").toList ++
        ':' :: ((" " ++ padRight 32 (formatShapes layer.inputShapes) ++ " out").toList ++
          ':' :: (" " ++ formatShapes layer.outputShapes).toList) := by
    simp [layerLine]
  rw [hline, List.splitOn_append_cons_self, List.splitOn_append_cons_self, List.splitOn_eq_singleton hin,
    List.splitOn_eq_singleton hout]
  exact ⟨_, rfl⟩

/-- Layers with the same line have the same shapes, whatever their names are. -/
theorem shapes_of_layerLine_eq {a b : Layer} (h : layerLine a = layerLine b) :
    a.inputShapes = b.inputShapes ∧ a.outputShapes = b.outputShapes := by
  obtain ⟨_, ha⟩ := splitOn_layerLine a
  obtain ⟨_, hb⟩ := splitOn_layerLine b
  rw [h, hb] at ha
  have hparts := List.append_inj_right' ha.symm rfl
  simp only [List.cons.injEq, and_true, String.toList_append, List.append_cancel_left_eq, padRight,
    List.append_assoc, String.toList_ofList] at hparts
  obtain ⟨hin, hout⟩ := hparts
  constructor
  · refine eq_of_formatShapes_append ?_ ?_ hin <;> simp
  · refine eq_of_formatShapes_append List.not_mem_nil List.not_mem_nil ?_
    rw [List.append_nil, List.append_nil, hout]

/-- A text that does not break its line. -/
def OneLine (text : String) : Prop :=
  '\n' ∉ text.toList

instance (text : String) : Decidable (OneLine text) :=
  inferInstanceAs (Decidable ('\n' ∉ text.toList))

/-- The texts that a network brings along do not break the lines they are printed in. -/
def Unbroken (network : Network) : Prop :=
  OneLine network.name ∧ ∀ layer ∈ network.layers, OneLine layer.name ∧ OneLine layer.typeName

instance (network : Network) : Decidable (Unbroken network) :=
  inferInstanceAs (Decidable (_ ∧ _))

theorem oneLine_append {a b : String} : OneLine (a ++ b) ↔ OneLine a ∧ OneLine b := by
  simp [OneLine]

theorem oneLine_padRight {width : Nat} {text : String} : OneLine (padRight width text) ↔ OneLine text := by
  simp [padRight, OneLine]

theorem oneLine_layerLine {layer : Layer} :
    OneLine (layerLine layer) ↔ OneLine layer.name ∧ OneLine layer.typeName := by
  have hshapes : ∀ shapes, OneLine (formatShapes shapes) := not_mem_formatShapes (by decide) (by decide)
  have hmarks : OneLine "  " ∧ OneLine " " ∧ OneLine " in: " ∧ OneLine " out: " := by decide
  simp only [layerLine, oneLine_append, oneLine_padRight, hshapes, hmarks, and_true, true_and]

theorem oneLine_headerLine {network : Network} {mode : Mode} :
    OneLine (headerLine network mode) ↔ OneLine network.name := by
  have hmarks : OneLine "[" ∧ OneLine "] shapes after " ∧ OneLine mode.text ∧ OneLine " inference:" := by
    cases mode <;> decide
  simp only [headerLine, oneLine_append, hmarks, and_true, true_and]

theorem toList_report (network : Network) (mode : Mode) : (report network mode).toList =
    ((headerLine network mode :: network.layers.map layerLine).map String.toList).flatMap
      (· ++ ['\n']) := by
  simp [report, reportLines, String.toList_join, List.flatMap_map]

/-- The lines of the text are those of the network and its layers exactly if no name has a line break. -/
theorem lines_report_iff {network : Network} {mode : Mode} :
    (report network mode).toList.splitOn '\n' =
      (headerLine network mode :: network.layers.map layerLine).map String.toList ++ [[]] ↔
    Unbroken network := by
  rw [toList_report, splitOn_flatMap_iff, List.forall_mem_map, List.forall_mem_cons, List.forall_mem_map]
  exact and_congr oneLine_headerLine (forall₂_congr fun layer _ => oneLine_layerLine)

end CommandLine

end ShapeFlow
