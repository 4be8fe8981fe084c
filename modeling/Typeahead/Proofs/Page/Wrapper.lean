import Typeahead.Page
import Typeahead.Proofs.Markup.Attribute

/-!
# What the markup around the input says

The input and its toggle are written with the name of the field and the text of the input in
attributes. The text may be anything: it was typed, or decoded from a label. The markup has five
tags whatever it is (`matched_renderWrapper`), and their attributes are those of the template, with
the name and the text as they are (`attributes_wrapperTags`). So the two can be read off the markup
(`renderWrapper_lossless`).
-/

namespace Typeahead
open Text Markup

/-! ### The tags -/

/-- The tag around the input and the toggle. -/
def wrapperTag (id : String) : String := "<span class=\"ui-combobox\" id=\"" ++ escape id ++ "\">"

def inputTag (text : String) : String :=
  "<input class=\"ui-combobox-input\" title=\"\" value=\"" ++ escape text ++ "\"/>"

def toggleTag : String :=
  "<span class=\"ui-combobox-toggle\" tabindex=\"-1\" title=\"Show all options\">"

/-- The tags of the markup of a field with the name and text given, up to its end. -/
def wrapperTags (id text : String) : List String :=
  [wrapperTag id, inputTag text, toggleTag, "</span>", "</span>"]

/-- The attributes of these tags. -/
def wrapperAttributes (id text : String) : List (List (String × String)) :=
  [[("class", "ui-combobox"), ("id", id)],
    [("class", "ui-combobox-input"), ("title", ""), ("value", text)],
    [("class", "ui-combobox-toggle"), ("tabindex", "-1"), ("title", "Show all options")], [], []]

theorem toList_wrapperTag (id : String) :
    (wrapperTag id).toList = tagWith "span" [("class", "ui-combobox"), ("id", id)] [] := by
  have hclass : escape "ui-combobox" = "ui-combobox" := by decide
  unfold wrapperTag
  simp [tagWith, opening, writeAttribute, hclass]

theorem toList_inputTag (text : String) :
    (inputTag text).toList =
      tagWith "input" [("class", "ui-combobox-input"), ("title", ""), ("value", text)] ['/'] := by
  have hclass : escape "ui-combobox-input" = "ui-combobox-input" := by decide
  have htitle : escape "" = "" := by decide
  unfold inputTag
  simp [tagWith, opening, writeAttribute, hclass, htitle]

theorem toList_toggleTag :
    toggleTag.toList =
      tagWith "span" [("class", "ui-combobox-toggle"), ("tabindex", "-1"),
        ("title", "Show all options")] [] := by
  decide

theorem renderWrapper_eq (id text : String) :
    renderWrapper id text =
      wrapperTag id ++ (inputTag text ++ (toggleTag ++ ("▼" ++ ("</span>" ++ "</span>")))) := by
  have htoggle :
      "<span class=\"ui-combobox-toggle\" tabindex=\"-1\" title=\"Show all options\">▼</span>" =
        toggleTag ++ ("▼" ++ "</span>") := by decide
  unfold renderWrapper wrapperTag inputTag
  rw [htoggle]
  simp only [String.append_assoc]

section
variable (id text : String)

theorem isName_wrapperAttributes : ∀ as ∈ wrapperAttributes id text, ∀ a ∈ as, IsName a.1 := by
  simp only [wrapperAttributes, List.forall_mem_cons, List.not_mem_nil, false_imp_iff, implies_true]
  decide

theorem isTag_wrapperTags : ∀ t ∈ wrapperTags id text, IsTag t.toList := by
  obtain ⟨hwrapper, hnames⟩ := List.forall_mem_cons.mp (isName_wrapperAttributes id text)
  obtain ⟨hinput, hnames⟩ := List.forall_mem_cons.mp hnames
  obtain ⟨htoggle, -⟩ := List.forall_mem_cons.mp hnames
  have hend : IsTag "</span>".toList := IsName.isTag_closing (by decide : IsName "span")
  simp only [wrapperTags, List.forall_mem_cons, toList_wrapperTag, toList_inputTag,
    toList_toggleTag]
  exact ⟨isTag_tagWith (by decide) hwrapper (by decide),
    isTag_tagWith (by decide) hinput (by decide), isTag_tagWith (by decide) htoggle (by decide),
    hend, hend, nofun⟩

/-! ### What is read -/

theorem attributes_wrapperTags :
    (wrapperTags id text).map (attributes ·.toList) = wrapperAttributes id text := by
  obtain ⟨hwrapper, hnames⟩ := List.forall_mem_cons.mp (isName_wrapperAttributes id text)
  obtain ⟨hinput, hnames⟩ := List.forall_mem_cons.mp hnames
  obtain ⟨htoggle, -⟩ := List.forall_mem_cons.mp hnames
  have hend : attributes "</span>".toList = [] := attributes_of_blank_not_mem (by decide)
  simp only [wrapperTags, List.map_cons, List.map_nil, toList_wrapperTag, toList_inputTag,
    toList_toggleTag, hend, wrapperAttributes]
  rw [attributes_tagWith (by decide) hwrapper (by decide),
    attributes_tagWith (by decide) hinput (by decide),
    attributes_tagWith (by decide) htoggle (by decide)]

theorem matched_renderWrapper :
    tag.matched (renderWrapper id text).toList = (wrapperTags id text).map String.toList := by
  have htags := isTag_wrapperTags id text
  simp only [wrapperTags, List.forall_mem_cons] at htags
  obtain ⟨hwrapper, hinput, htoggle, hend, -⟩ := htags
  have hmatched : ∀ {m : List Char} (r : List Char), IsTag m →
      tag.matched (m ++ r) = m :: tag.matched r :=
    fun r hm => matched_append_tag List.not_mem_nil hm r
  have htext : tag.matched ("▼".toList ++ ("</span>".toList ++ "</span>".toList)) =
      "</span>".toList :: tag.matched "</span>".toList :=
    matched_append_tag (by decide) hend _
  have hlast : tag.matched "</span>".toList = ["</span>".toList] := by
    have h := hmatched [] hend
    rwa [List.append_nil, Pattern.matched_nil] at h
  simp only [renderWrapper_eq, String.toList_append, hmatched _ hwrapper, hmatched _ hinput,
    hmatched _ htoggle, htext, hlast, wrapperTags, List.map_cons, List.map_nil]

/-- The name and the text that the markup around an input shows: the `id` of its first tag, and the
`value` of its second. -/
def readWrapper (page : String) : Option (String × String) := do
  let id ← (tag.matched page.toList)[0]?.bind (attribute? "id")
  let text ← (tag.matched page.toList)[1]?.bind (attribute? "value")
  return (id, text)

theorem readWrapper_renderWrapper : readWrapper (renderWrapper id text) = some (id, text) := by
  have hattributes := attributes_wrapperTags id text
  simp only [wrapperTags, wrapperAttributes, List.map_cons, List.cons.injEq] at hattributes
  obtain ⟨hwrapper, hinput, -⟩ := hattributes
  have hid : attribute? "id" (wrapperTag id).toList = some id := by rw [attribute?, hwrapper]; rfl
  have hvalue : attribute? "value" (inputTag text).toList = some text := by
    rw [attribute?, hinput]
    rfl
  simp [readWrapper, matched_renderWrapper, wrapperTags, hid, hvalue]

end

/-- Whatever the name of a field and the text of its input are, the markup around the input has the
five tags of the template with the attributes of the template, and the name and the text are read off
it as they are. So two fields have the same markup only if they have the same name and the same
text. -/
theorem renderWrapper_lossless :
    (∀ f : Field, TagsOf f.renderWrapper ((wrapperTags f.id f.text).map String.toList) ∧
      (wrapperTags f.id f.text).map (attributes ·.toList) = wrapperAttributes f.id f.text ∧
      readWrapper f.renderWrapper = some (f.id, f.text)) ∧
    ∀ f g : Field, f.renderWrapper = g.renderWrapper ↔ f.id = g.id ∧ f.text = g.text := by
  refine ⟨fun f => ⟨tagsOf_iff.mpr (matched_renderWrapper f.id f.text).symm,
    attributes_wrapperTags f.id f.text, readWrapper_renderWrapper f.id f.text⟩, fun f g => ?_⟩
  constructor
  · intro h
    have hread := readWrapper_renderWrapper f.id f.text
    rw [← Field.renderWrapper, h, Field.renderWrapper, readWrapper_renderWrapper] at hread
    obtain ⟨hid, htext⟩ := Prod.mk.inj (Option.some.inj hread)
    exact ⟨hid.symm, htext.symm⟩
  · rintro ⟨hid, htext⟩
    rw [Field.renderWrapper, Field.renderWrapper, hid, htext]

end Typeahead
