import Typeahead.Page
import Typeahead.Proofs.Markup.Attribute
import Typeahead.Proofs.Select.Edits

/-!
# What the markup of a select says

The markup of a select is read back by a scan for its tags: the tag of the select has the name and
says whether it is hidden, and each tag of an option has its value and says whether it is selected;
the text up to the next tag is the label. Names and values may be anything, as they stand in
attributes. A label is markup itself, so it may not bring tags of its own (`Select.Bare`).

What is read is the select that was written (`Select.read_render`), so no two selects have the same
markup (`render_lossless`).
-/

namespace Typeahead
open Text Markup

/-! ### Reading -/

/-- The text up to the next tag. -/
def textBefore : List Piece → String
  | .plain s :: _ => String.ofList s
  | _ => ""

/-- The choices that a page offers, and whether each is selected. -/
def readOptions : List Piece → List (Choice × Bool)
  | [] => []
  | .plain _ :: ps => readOptions ps
  | .found t :: ps =>
    if elementName t = "option" then
      (⟨textBefore ps, (attribute? "value" t).getD ""⟩, (attribute? "selected" t).isSome) ::
        readOptions ps
    else readOptions ps

/-- The select that a page shows. -/
def Select.read (page : String) : Select where
  name := ((tag.matched page.toList).head?.bind (attribute? "name")).getD ""
  choices := (readOptions (tag.pieces page.toList)).map Prod.fst
  selected := (readOptions (tag.pieces page.toList)).findIdx? Prod.snd
  hidden := (tag.matched page.toList).head?.bind (attribute? "style") = some "display: none"

/-! ### The tags -/

/-- A tag with an attribute, and behind it one more if the element is marked. -/
def markedTag (name attr value mark flag : String) (marked : Bool) : List Char :=
  tagWith name ((attr, value) :: if marked then [(mark, flag)] else []) []

section
variable {name attr mark : String} (hname : IsName name) (hattr : IsName attr) (hmark : IsName mark)
  (value flag : String) (marked : Bool)

include hname in
theorem elementName_markedTag : elementName (markedTag name attr value mark flag marked) = name :=
  elementName_tagWith hname _ _

include hname hattr hmark

theorem isTag_markedTag : IsTag (markedTag name attr value mark flag marked) := by
  refine isTag_tagWith hname (List.forall_mem_cons.mpr ⟨hattr, ?_⟩) (by decide)
  cases marked <;> simp [hmark]

theorem attributes_markedTag :
    attributes (markedTag name attr value mark flag marked) =
      (attr, value) :: if marked then [(mark, flag)] else [] := by
  refine attributes_tagWith hname (List.forall_mem_cons.mpr ⟨hattr, ?_⟩) (by decide)
  cases marked <;> simp [hmark]

theorem attribute?_markedTag :
    attribute? attr (markedTag name attr value mark flag marked) = some value := by
  rw [attribute?, attributes_markedTag hname hattr hmark, List.lookup_cons_self]

theorem attribute?_markedTag_mark (hne : mark ≠ attr) :
    attribute? mark (markedTag name attr value mark flag marked) =
      if marked then some flag else none := by
  have hfirst : (mark == attr) = false := beq_false_of_ne hne
  rw [attribute?, attributes_markedTag hname hattr hmark, List.lookup_cons, hfirst]
  cases marked
  · rfl
  · exact List.lookup_cons_self

end

/-- The tag that opens an option. -/
def Choice.openTag (c : Choice) (selected : Bool) : List Char :=
  markedTag "option" "value" c.value "selected" "selected" selected

/-- The tag that opens a select. -/
def Select.openTag (s : Select) : List Char :=
  markedTag "select" "name" s.name "style" "display: none" s.hidden

theorem Choice.toList_render (c : Choice) (selected : Bool) :
    (c.render selected).toList =
      c.openTag selected ++ (c.label.toList ++ closing "option".toList) := by
  have hmark : escape "selected" = "selected" := by decide
  unfold Choice.render
  cases selected <;>
    simp [Choice.openTag, markedTag, tagWith, opening, closing, writeAttribute, hmark]

/-- The choices, and whether each is selected. -/
def Select.options (s : Select) : List (Choice × Bool) :=
  s.choices.zipIdx.map fun (c, i) => (c, decide (s.selected = some i))

theorem Select.toList_render (s : Select) :
    s.render.toList = s.openTag ++
      (s.options.flatMap (fun o => (o.1.render o.2).toList) ++ closing "select".toList) := by
  have hmark : escape "display: none" = "display: none" := by decide
  unfold Select.render
  cases h : s.hidden <;>
    simp [Select.openTag, Select.options, h, markedTag, tagWith, opening, closing, writeAttribute,
      hmark, String.toList_join, List.flatMap_map]

/-! ### The pieces -/

/-- The pieces of an option. -/
def optionPieces (o : Choice × Bool) : List Piece :=
  [.plain [], .found (o.1.openTag o.2), .plain o.1.label.toList, .found (closing "option".toList)]

theorem pieces_options {os : List (Choice × Bool)} (hos : ∀ o ∈ os, '<' ∉ o.1.label.toList)
    (rest : List Char) :
    tag.pieces (os.flatMap (fun o => (o.1.render o.2).toList) ++ rest) =
      os.flatMap optionPieces ++ tag.pieces rest := by
  induction os with
  | nil => rfl
  | cons o os ih =>
    obtain ⟨ho, hos⟩ := List.forall_mem_cons.mp hos
    have hopen : IsTag (o.1.openTag o.2) :=
      isTag_markedTag (by decide) (by decide) (by decide) _ _ _
    have hclose : IsTag (closing "option".toList) := IsName.isTag_closing (by decide)
    have hlabel := pieces_append_tag ho hclose
      (os.flatMap (fun o => (o.1.render o.2).toList) ++ rest)
    have htag := pieces_append_tag List.not_mem_nil hopen (o.1.label.toList ++
      (closing "option".toList ++ (os.flatMap (fun o => (o.1.render o.2).toList) ++ rest)))
    rw [List.nil_append, hlabel, ih hos] at htag
    rw [List.flatMap_cons, List.flatMap_cons, Choice.toList_render]
    simp only [List.append_assoc]
    exact htag

theorem Select.map_fst_options (s : Select) : s.options.map Prod.fst = s.choices := by
  simp [options, Function.comp_def, List.zipIdx_map_fst]

theorem Select.pieces_render {s : Select} (hs : ∀ c ∈ s.choices, '<' ∉ c.label.toList) :
    tag.pieces s.render.toList = .plain [] :: .found s.openTag ::
      (s.options.flatMap optionPieces ++
        [.plain [], .found (closing "select".toList), .plain []]) := by
  have hopen : IsTag s.openTag := isTag_markedTag (by decide) (by decide) (by decide) _ _ _
  have hclose : IsTag (closing "select".toList) := IsName.isTag_closing (by decide)
  have hend := pieces_append_tag List.not_mem_nil hclose []
  rw [List.nil_append, List.append_nil, tag.pieces_of_none (s := []) rfl] at hend
  have hoptions : ∀ o ∈ s.options, '<' ∉ o.1.label.toList := by
    rw [← s.map_fst_options, List.forall_mem_map] at hs
    exact hs
  have htag := pieces_append_tag List.not_mem_nil hopen
    (s.options.flatMap (fun o => (o.1.render o.2).toList) ++ closing "select".toList)
  rwa [List.nil_append, pieces_options hoptions, hend, ← toList_render] at htag

/-! ### What is read -/

theorem readOptions_options (os : List (Choice × Bool)) (ps : List Piece) :
    readOptions (os.flatMap optionPieces ++ ps) = os ++ readOptions ps := by
  induction os with
  | nil => rfl
  | cons o os ih =>
    obtain ⟨c, selected⟩ := o
    have hname : elementName (c.openTag selected) = "option" :=
      elementName_markedTag (by decide) _ _ _
    have hvalue : attribute? "value" (c.openTag selected) = some c.value :=
      attribute?_markedTag (by decide) (by decide) (by decide) _ _ _
    have hselected : attribute? "selected" (c.openTag selected) =
        if selected then some "selected" else none :=
      attribute?_markedTag_mark (by decide) (by decide) (by decide) _ _ _ (by decide)
    have hflag : (attribute? "selected" (c.openTag selected)).isSome = selected := by
      rw [hselected]
      cases selected <;> rfl
    simp [optionPieces, readOptions, hname, elementName_closing, hvalue, hflag, textBefore, ih]

theorem Select.readOptions_render {s : Select} (hs : ∀ c ∈ s.choices, '<' ∉ c.label.toList) :
    readOptions (tag.pieces s.render.toList) = s.options := by
  have hname : elementName s.openTag = "select" := elementName_markedTag (by decide) _ _ _
  rw [pieces_render hs]
  simp [readOptions, hname, elementName_closing, readOptions_options]

/-- The position selected is that of the choice that is marked. -/
theorem Select.findIdx?_options {s : Select} (hs : s.InRange) :
    s.options.findIdx? Prod.snd = s.selected := by
  cases h : s.selected with
  | none => simp [options, h, List.findIdx?_eq_none_iff]
  | some i =>
    rw [List.findIdx?_eq_some_iff_getElem]
    refine ⟨by simpa [options] using hs i h, by simp [options, h], fun j hji => ?_⟩
    simpa [options, h] using Nat.ne_of_gt hji

/-- A select whose markup can be read: the position selected is one of its list, and no label brings
tags of its own. -/
structure Select.Bare (s : Select) : Prop where
  inRange : s.InRange
  labels : ∀ c ∈ s.choices, '<' ∉ c.label.toList

theorem Select.head?_matched_render {s : Select} (hs : ∀ c ∈ s.choices, '<' ∉ c.label.toList) :
    (tag.matched s.render.toList).head? = some s.openTag := by
  rw [Pattern.matched, pieces_render hs]
  rfl

theorem Select.read_render {s : Select} (hs : s.Bare) : Select.read s.render = s := by
  have hname : attribute? "name" s.openTag = some s.name :=
    attribute?_markedTag (by decide) (by decide) (by decide) _ _ _
  have hstyle : attribute? "style" s.openTag = if s.hidden then some "display: none" else none :=
    attribute?_markedTag_mark (by decide) (by decide) (by decide) _ _ _ (by decide)
  have hhidden : decide (attribute? "style" s.openTag = some "display: none") = s.hidden := by
    rw [hstyle]
    cases s.hidden <;> rfl
  simp only [read, head?_matched_render hs.labels, Option.bind_some, hname, Option.getD_some,
    readOptions_render hs.labels, map_fst_options, findIdx?_options hs.inRange, hhidden]

/-- The tags of the markup are that of the select and those of its options, and no others. -/
theorem Select.tagsOf_render {s : Select} (hs : ∀ c ∈ s.choices, '<' ∉ c.label.toList) :
    TagsOf s.render (s.openTag ::
      (s.options.flatMap fun o => [o.1.openTag o.2, closing "option".toList]) ++
        [closing "select".toList]) := by
  rw [tagsOf_iff, Pattern.matched, pieces_render hs]
  simp [optionPieces, Piece.matched, List.flatMap_assoc]

/-- Whatever characters the name and the values of a select have, they stay in their attributes: its
markup has the tags of a select and of its options, and is read as just this select. So it is no
other select's. -/
theorem render_lossless {s : Select} (hs : s.Bare) :
    TagsOf s.render (s.openTag ::
      (s.options.flatMap fun o => [o.1.openTag o.2, closing "option".toList]) ++
        [closing "select".toList]) ∧
    Select.read s.render = s ∧
    ∀ t : Select, t.Bare → t.render = s.render → t = s := by
  refine ⟨Select.tagsOf_render hs.labels, Select.read_render hs, fun t ht heq => ?_⟩
  rw [← Select.read_render ht, heq, Select.read_render hs]

/-- A name and a value with quotes and tags of their own, and a label with a stray bracket. -/
def quotedSelect : Select :=
  ⟨"m\" style=\"", [⟨"", ""⟩, ⟨"1 > 0", "\"><option value=\"2\" selected=\"selected\">"⟩],
    some 0, true⟩

theorem bare_quotedSelect : quotedSelect.Bare where
  inRange := by
    rintro i ⟨⟩
    decide
  labels := by decide

theorem render_lossless_quoted :
    quotedSelect.Bare ∧ Select.read quotedSelect.render = quotedSelect ∧
      quotedSelect.clear.Bare ∧ quotedSelect.clear.render = quotedSelect.render ∧
      quotedSelect.clear = quotedSelect := by
  have hbare : quotedSelect.clear.Bare := ⟨Select.inRange_setValue _ _, bare_quotedSelect.labels⟩
  have hsame : quotedSelect.clear.render = quotedSelect.render :=
    congrArg Select.render (by decide : quotedSelect.clear = quotedSelect)
  exact ⟨bare_quotedSelect, (render_lossless bare_quotedSelect).2.1, hbare, hsame,
    (render_lossless bare_quotedSelect).2.2 _ hbare hsame⟩

end Typeahead
