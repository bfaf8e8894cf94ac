import Datacube.Proofs.Markup.Reader
import Datacube.Proofs.Text.Pieces
import Datacube.Proofs.Text.Trim
import Mathlib.Data.List.Nodup

-- Elements written down as documents, and what reading such documents gives.
namespace Datacube.Markup

def IsWord (s : String) : Prop :=
  s ≠ "" ∧ ∀ c ∈ s.toList, c.isAlpha = true

instance (s : String) : Decidable (IsWord s) :=
  inferInstanceAs (Decidable (s ≠ "" ∧ ∀ c ∈ s.toList, c.isAlpha = true))

def spelled (a : String × String) : List Char × List Char :=
  (a.1.toList, a.2.toList)

-- Texts and values are written as they are, without entities.
def startTag (name : String) (attributes : List (String × String)) : List Char :=
  '<' :: (name.toList ++ attributesText (attributes.map spelled) ++ ['>'])

def endTag (name : String) : List Char :=
  '<' :: '/' :: (name.toList ++ ['>'])

mutual

-- Everything of an element in front of its end tag.
def Element.unclosed : Element → List Char
  | ⟨name, attributes, text, children⟩ =>
    startTag name attributes ++ text.toList ++ writtenEach children

def writtenEach : List Element → List Char
  | [] => []
  | child :: children => child.unclosed ++ endTag child.name ++ writtenEach children

end

namespace Element

def written (e : Element) : List Char :=
  e.unclosed ++ endTag e.name

-- The element's own parts can be written as they are.
structure Bare (e : Element) : Prop where
  name : IsWord e.name
  keys : ∀ a ∈ e.attributes, IsWord a.1
  distinct : (e.attributes.map Prod.fst).Nodup
  values : ∀ a ∈ e.attributes, ∀ c ∈ ['<', '&', '"'], c ∉ a.2.toList
  trimmed : Text.Trimmed e.text
  text : ∀ c ∈ ['<', '&'], c ∉ e.text.toList

instance (e : Element) : Decidable e.Bare :=
  decidable_of_iff
    (IsWord e.name ∧ (∀ a ∈ e.attributes, IsWord a.1) ∧ (e.attributes.map Prod.fst).Nodup ∧
      (∀ a ∈ e.attributes, ∀ c ∈ ['<', '&', '"'], c ∉ a.2.toList) ∧ Text.trim e.text = e.text ∧
      ∀ c ∈ ['<', '&'], c ∉ e.text.toList)
    ⟨fun ⟨h₁, h₂, h₃, h₄, h₅, h₆⟩ => ⟨h₁, h₂, h₃, h₄, h₅, h₆⟩,
      fun h => ⟨h.name, h.keys, h.distinct, h.values, h.trimmed, h.text⟩⟩

-- So can those of all elements in it.
inductive Plain : Element → Prop
  | node {e : Element} (hparts : e.Bare) (hchildren : ∀ child ∈ e.children, Plain child) : Plain e

theorem Plain.parts {e : Element} (h : e.Plain) : e.Bare := by
  cases h with
  | node hparts _ => exact hparts

end Element

section Parts

variable {e : Element} {name : String}

theorem writtenEach_eq (children : List Element) :
    writtenEach children = children.flatMap Element.written := by
  induction children with
  | nil => rfl
  | cons child children ih => rw [writtenEach, ih, List.flatMap_cons, Element.written]

theorem unclosed_eq (e : Element) :
    e.unclosed = startTag e.name e.attributes ++ e.text.toList ++
      e.children.flatMap Element.written := by
  obtain ⟨name, attributes, text, children⟩ := e
  rw [Element.unclosed, writtenEach_eq]

theorem IsWord.isNameChar (h : IsWord name) : ∀ c ∈ name.toList, IsNameChar c :=
  fun c hc => .inl (by simp [Char.isAlphanum, h.2 c hc])

theorem IsWord.isName (h : IsWord name) : IsName name.toList :=
  ⟨by simpa using h.1, h.isNameChar⟩

theorem IsWord.localName_eq (h : IsWord name) : localName name.toList = name.toList := by
  have hcolon : ':' ∉ name.toList := fun hmem => absurd (h.2 ':' hmem) (by decide)
  rw [localName, Text.cut_of_not_mem hcolon]

theorem Element.Bare.readable (h : e.Bare) : Readable (e.attributes.map spelled) where
  keys := List.forall_mem_map.mpr fun a ha => (h.keys a ha).isName
  values := List.forall_mem_map.mpr fun a ha =>
    ⟨h.values a ha '"' (by simp), resolved_of_not_mem (h.values a ha '&' (by simp))⟩
  distinct := by
    have hdistinct := List.Nodup.map (fun _ _ => String.toList_inj.mp) h.distinct
    rwa [List.map_map] at hdistinct ⊢

-- Its attributes are read as they stand.
theorem Element.Bare.elementOf_eq (h : e.Bare) :
    elementOf (e.name.toList ++ attributesText (e.attributes.map spelled)) =
      .ok { name := e.name, attributes := e.attributes } := by
  have hreads : List.Forall₂ ReadsAs (e.attributes.map spelled) (e.attributes.map spelled) := by
    refine List.forall₂_same.mpr (List.forall_mem_map.mpr fun a ha => ⟨rfl, ?_⟩)
    exact unescape_of_not_mem (h.values a ha '&' (by simp))
  have hkept : (e.attributes.map spelled).map (fun a =>
      (String.ofList (localName a.1), String.ofList a.2)) = e.attributes := by
    rw [List.map_map]
    refine (List.map_congr_left fun a ha => ?_).trans (List.map_id e.attributes)
    simp [spelled, (h.keys a ha).localName_eq]
  rw [elementOf_append h.name.isNameChar h.readable hreads, hkept, h.name.localName_eq,
    String.ofList_toList]

end Parts

-- The characters take every reader between tags with the one draft to such a reader with the other.
def Draft.Leads (p : Draft) (cs : List Char) (p' : Draft) : Prop :=
  ∀ k : Reader, k.Settled p → ∃ k' : Reader, k.Reaches cs k' ∧ k'.Settled p'

-- The draft inside an element.
def Draft.enter (p : Draft) (e : Element) : Draft :=
  { p with opened := ⟨e.name.toList, e⟩ :: p.opened }

namespace Draft

variable {p p' p'' : Draft} {cs ds : List Char} {e : Element}

theorem Leads.refl (p : Draft) : p.Leads [] p :=
  fun k hk => ⟨k, .refl k, hk⟩

theorem Leads.trans (h : p.Leads cs p') (h' : p'.Leads ds p'') : p.Leads (cs ++ ds) p'' := by
  intro k hk
  obtain ⟨k', hreaches, hk'⟩ := h k hk
  obtain ⟨k'', hmore, hk''⟩ := h' k' hk'
  exact ⟨k'', hreaches.trans hmore, hk''⟩

theorem attach_enter (p : Draft) (e child : Element) :
    (p.enter e).attach child = .ok (p.enter (e.addChild child)) := rfl

-- Trimmed text becomes the text of the element around it, with nothing lost.
theorem step_textTokens {text : String} (htrimmed : Text.Trimmed text) (hamp : '&' ∉ text.toList)
    (p : Draft) (e : Element) :
    (textTokens text.toList).foldlM step (p.enter { e with text := "" }) =
      .ok (p.enter { e with text := text }) := by
  have hkept : Text.stripEnds isSpace text.toList = text.toList := by
    refine Text.stripEnds_eq_self_mono htrimmed.trimChars_eq fun c hc => ?_
    by_contra hspace
    simp only [isSpace, Bool.not_eq_false, Bool.or_eq_true, beq_iff_eq, or_assoc] at hspace
    rcases hspace with rfl | rfl | rfl | rfl <;> cases hc
  unfold textTokens
  rw [hkept]
  split
  · next hnone =>
    obtain rfl : text = "" := String.toList_eq_nil_iff.mp hnone
    rfl
  · rw [List.foldlM_cons, step, unescape_of_not_mem hamp, Result.ok_bind]
    simp [enter, addText, Element.addText, htrimmed.trimChars_eq]

theorem reaches_startTag {k : Reader} (h : e.Bare) (hk : k.Settled p) :
    k.Reaches (startTag e.name e.attributes)
      ⟨.text, [], p.enter { name := e.name, attributes := e.attributes }⟩ := by
  let content := e.name.toList ++ attributesText (e.attributes.map spelled)
  have hcontent : Reader.Reaches ⟨.opening, [], p⟩ content ⟨.tag none, content.reverse, p⟩ :=
    Reader.reaches_tagContent h.name.isName h.readable
  have hlast : content.reverse.head? ≠ some '/' := by
    rw [List.head?_reverse]
    exact getLast_append_ne h.name.isName
  have helement : elementOf content.reverse.reverse =
      .ok { name := e.name, attributes := e.attributes } := by
    rw [List.reverse_reverse]
    exact h.elementOf_eq
  have hopened := Reader.reaches_start (p := p) hlast helement
  rw [List.reverse_reverse, rawName_append h.name.isNameChar] at hopened
  simpa [startTag, content, enter] using hk.reaches_opening.trans (hcontent.trans hopened)

-- A start tag with the text behind it opens an element that has no children yet.
theorem leads_head (h : e.Bare) (p : Draft) :
    p.Leads (startTag e.name e.attributes ++ e.text.toList)
      (p.enter { e with children := [] }) := by
  intro k hk
  let opened := p.enter { name := e.name, attributes := e.attributes }
  have htext : Reader.Reaches ⟨.text, [], opened⟩ e.text.toList
      ⟨.text, e.text.toList.reverse ++ [], opened⟩ :=
    Reader.reaches_each (fun c acc hc => Reader.reaches_text hc)
      fun c hc => ne_of_mem_of_not_mem hc (h.text '<' (by simp))
  refine ⟨_, (reaches_startTag h hk).trans htext, rfl, ?_⟩
  simpa using step_textTokens h.trimmed (h.text '&' (by simp)) p { e with children := [] }

-- An end tag gives the element to what is around it.
theorem read_endTag {k : Reader} (hk : k.Settled (p.enter e)) (hname : IsWord e.name)
    (rest : List Char) :
    k.read (endTag e.name ++ rest) = (do
      let p' ← p.attach e
      Reader.read ⟨.text, [], p'⟩ rest) := by
  have hstart : k.Reaches ('<' :: '/' :: e.name.toList)
      ⟨.endTag, e.name.toList.reverse ++ [], p.enter e⟩ :=
    hk.reaches_opening.trans (Reader.reaches_endTag.trans (Reader.reaches_each
      (fun c acc hc => Reader.reaches_endName (ne_of_isNameChar hc (by decide)))
      hname.isNameChar))
  have htext : endTag e.name ++ rest = '<' :: '/' :: e.name.toList ++ '>' :: rest := by
    simp [endTag]
  rw [htext, hstart, Reader.read_end (by simpa using hname.isNameChar) rfl (by simp)]
  rfl

theorem Leads.close (h : p.Leads cs (p.enter e)) (hname : IsWord e.name)
    (hattach : p.attach e = .ok p') : p.Leads (cs ++ endTag e.name) p' := by
  refine h.trans fun k hk => ⟨⟨.text, [], p'⟩, fun rest => ?_, Reader.settled_nil p'⟩
  rw [read_endTag hk hname, hattach, Result.ok_bind]

-- Children are put behind each other, in the order they are written in.
theorem leads_children {children : List Element} (hnames : ∀ child ∈ children, IsWord child.name)
    (h : ∀ child ∈ children, ∀ p : Draft, p.Leads child.unclosed (p.enter child))
    (p : Draft) (e : Element) :
    (p.enter e).Leads (children.flatMap Element.written)
      (p.enter { e with children := e.children ++ children }) := by
  induction children generalizing e with
  | nil =>
      obtain ⟨name, attributes, text, earlier⟩ := e
      simpa using Leads.refl (p.enter ⟨name, attributes, text, earlier⟩)
  | cons child children ih =>
      obtain ⟨hname, hnames⟩ := List.forall_mem_cons.mp hnames
      obtain ⟨hchild, hchildren⟩ := List.forall_mem_cons.mp h
      have hfirst := (hchild (p.enter e)).close hname (attach_enter p e child)
      have hothers := ih hnames hchildren (e.addChild child)
      simpa [Element.addChild, Element.written] using hfirst.trans hothers

theorem leads_unclosed (h : e.Plain) (p : Draft) : p.Leads e.unclosed (p.enter e) := by
  induction h generalizing p with
  | @node e hparts hchildren ih =>
      rw [unclosed_eq]
      have hnames : ∀ child ∈ e.children, IsWord child.name := fun child hchild =>
        (hchildren child hchild).parts.name
      have hbody := leads_children hnames ih p { e with children := [] }
      obtain ⟨name, attributes, text, children⟩ := e
      exact (leads_head hparts p).trans hbody

theorem leads_written (h : e.Plain) (hattach : p.attach e = .ok p') : p.Leads e.written p' :=
  (leads_unclosed h p).close h.parts.name hattach

end Draft

section Parse

variable {e e' : Element} {p : Draft} {cs : List Char}

theorem head_unclosed (e : Element) : e.unclosed.head? = some '<' := by
  rw [unclosed_eq]
  rfl

-- A document that leads somewhere is read as what the draft there finishes to.
theorem Draft.Leads.buildTree_tokens (h : Draft.Leads {} cs p) (hfirst : cs.head? = some '<') :
    buildTree (tokens cs) = p.finish := by
  obtain ⟨k, hreaches, hk⟩ := h ⟨.text, [], {}⟩ (Reader.settled_nil {})
  have hread : Reader.read ⟨.text, [], {}⟩ cs = k.read [] := by
    simpa using hreaches []
  rw [Reader.buildTree_tokens (by rw [hfirst]; decide), hread, hk.read_nil, Result.ok_bind]

theorem buildTree_written (h : e.Plain) : buildTree (tokens e.written) = .ok e := by
  have hlead : Draft.Leads {} e.written ⟨[], some e⟩ := Draft.leads_written h rfl
  exact hlead.buildTree_tokens (by simp [Element.written, head_unclosed])

theorem buildTree_unclosed (h : e.Plain) :
    buildTree (tokens e.unclosed) = .error (.unclosed e.name) :=
  (Draft.leads_unclosed h {}).buildTree_tokens (head_unclosed e)

-- The second element cannot become the root when its end tag is read.
theorem buildTree_twice (h : e.Plain) (h' : e'.Plain) :
    buildTree (tokens (e.written ++ e'.written)) = .error (.secondRoot e'.name) := by
  have hlead : Draft.Leads {} (e.written ++ e'.unclosed) (Draft.enter ⟨[], some e⟩ e') :=
    (Draft.leads_written h rfl).trans (Draft.leads_unclosed h' _)
  obtain ⟨k, hreaches, hk⟩ := hlead ⟨.text, [], {}⟩ (Reader.settled_nil {})
  have hfirst : (e.written ++ e'.written).head? = some '<' := by
    simp [Element.written, head_unclosed]
  have htext : e.written ++ e'.written = e.written ++ e'.unclosed ++ (endTag e'.name ++ []) := by
    simp [Element.written]
  rw [Reader.buildTree_tokens (by rw [hfirst]; decide), htext, hreaches,
    Draft.read_endTag hk h'.parts.name]
  rfl

-- An element of lettered names, of texts and values that need no entities, is read back from its
-- tags exactly. With a second element behind it, or its own end tag cut off, it is refused.
theorem plain_read_back (h : e.Plain) :
    Element.parse (String.ofList e.written) = .ok e ∧
      (∀ e' : Element, e'.Plain → Element.parse (String.ofList (e.written ++ e'.written)) =
        .error (.invalidXml (Fault.secondRoot e'.name).message)) ∧
      Element.parse (String.ofList e.unclosed) =
        .error (.invalidXml (Fault.unclosed e.name).message) := by
  simp only [Element.parse, String.toList_ofList]
  refine ⟨?_, fun e' h' => ?_, ?_⟩
  · rw [buildTree_written h]
  · rw [buildTree_twice h h']
  · rw [buildTree_unclosed h]

def levelSum : Element :=
  { name := "plus"
    children := [{ name := "coverage", text := "sea level" }, { name := "constant", text := "2" }] }

def maskedSum : Element :=
  { name := "encode"
    attributes := [("store", "where 'a > b'"), ("mode", "")]
    children := [levelSum, { name := "format", text := "csv" }] }

theorem plain_maskedSum : maskedSum.Plain := by
  have hleaf : ∀ e : Element, e.Bare → e.children = [] → e.Plain := fun e he hnone =>
    .node he (by simp [hnone])
  have hsum : levelSum.Plain := .node (by decide) (List.forall_mem_cons.mpr
    ⟨hleaf _ (by decide) rfl, List.forall_mem_singleton.mpr (hleaf _ (by decide) rfl)⟩)
  exact .node (by decide) (List.forall_mem_cons.mpr
    ⟨hsum, List.forall_mem_singleton.mpr (hleaf _ (by decide) rfl)⟩)

theorem plain_read_back_maskedSum :
    maskedSum.Plain ∧
    String.ofList maskedSum.written = "<encode store=\"where 'a > b'\" mode=\"\"><plus>" ++
      "<coverage>sea level</coverage><constant>2</constant></plus><format>csv</format></encode>" ∧
    Element.parse (String.ofList maskedSum.written) = .ok maskedSum ∧
    Element.parse (String.ofList (maskedSum.written ++ maskedSum.written)) =
      .error (.invalidXml "second root element <encode>") ∧
    Element.parse (String.ofList maskedSum.unclosed) =
      .error (.invalidXml "unclosed element <encode>") := by
  obtain ⟨hread, htwice, hunclosed⟩ := plain_read_back plain_maskedSum
  exact ⟨plain_maskedSum, by decide +kernel, hread, htwice maskedSum plain_maskedSum, hunclosed⟩

end Parse

end Datacube.Markup
