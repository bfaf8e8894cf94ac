import Datacube.Proofs.Markup.Tag

-- Reading a document character by character: the scanner's mode, the piece it is in, and the draft
-- of the tree so far.
namespace Datacube.Markup

-- What one character does in each mode that well-formed markup goes through.
section Scan

variable {acc cs : List Char} {c : Char}

theorem scan_text : scan .text acc (c :: cs) =
    if c = '<' then textTokens acc.reverse ++ scan .opening [] cs
    else scan .text (c :: acc) cs := rfl

theorem scan_opening : scan .opening acc (c :: cs) =
    if c = '!' then scan .declaration ['!'] cs
    else if c = '/' then scan .endTag [] cs
    else if c = '?' then scan .instruction ['?'] cs
    else if c = '>' then tagToken [] :: scan .text [] cs
    else scan (.tag (nextQuote none c)) [c] cs := rfl

theorem scan_tag {quote : Option Char} : scan (.tag quote) acc (c :: cs) =
    if c = '>' ∧ quote = none then tagToken acc.reverse :: scan .text [] cs
    else scan (.tag (nextQuote quote c)) (c :: acc) cs := rfl

theorem scan_endTag : scan .endTag acc (c :: cs) =
    if c = '>' then .endTag acc.reverse :: scan .text [] cs
    else scan .endTag (c :: acc) cs := rfl

theorem scan_instruction : scan .instruction acc (c :: cs) =
    if c = '>' then
      match instructionTokens acc.reverse with
      | [] => scan .text [] cs
      | faults => faults
    else scan .instruction (c :: acc) cs := rfl

end Scan

structure Reader where
  mode : Mode
  acc : List Char
  draft : Draft

-- The names of the open elements.
def Draft.names (p : Draft) : List (List Char) :=
  p.opened.map (·.raw)

theorem Draft.names_addText (p : Draft) (cs : List Char) : (p.addText cs).names = p.names := by
  unfold addText
  split
  · next hopened => simp [names, hopened]
  · rfl

theorem Draft.root_addText (p : Draft) (cs : List Char) : (p.addText cs).root = p.root := by
  unfold addText
  split <;> rfl

namespace Reader

def read (k : Reader) (cs : List Char) : Except Fault Draft :=
  (scan k.mode k.acc cs).foldlM Draft.step k.draft

-- Whatever follows, the characters take one reader to the other.
def Reaches (k : Reader) (cs : List Char) (k' : Reader) : Prop :=
  ∀ rest, k.read (cs ++ rest) = k'.read rest

variable {k k' k'' : Reader} {acc cs ds : List Char} {c : Char} {p : Draft}

theorem Reaches.refl (k : Reader) : k.Reaches [] k :=
  fun _ => rfl

theorem Reaches.trans (h : k.Reaches cs k') (h' : k'.Reaches ds k'') :
    k.Reaches (cs ++ ds) k'' := by
  intro rest
  rw [List.append_assoc, h, h']

-- Characters that are read one after the other in the same way.
theorem reaches_each {P : Char → Prop} {m : Mode}
    (h : ∀ c acc, P c → Reaches ⟨m, acc, p⟩ [c] ⟨m, c :: acc, p⟩) (hcs : ∀ c ∈ cs, P c) :
    Reaches ⟨m, acc, p⟩ cs ⟨m, cs.reverse ++ acc, p⟩ := by
  induction cs generalizing acc with
  | nil => exact .refl _
  | cons c cs ih =>
      obtain ⟨hc, hcs⟩ := List.forall_mem_cons.mp hcs
      simpa using (h c acc hc).trans (ih hcs)

section Text

theorem reaches_text (hc : c ≠ '<') : Reaches ⟨.text, acc, p⟩ [c] ⟨.text, c :: acc, p⟩ := by
  intro rest
  simp [read, scan_text, hc]

-- Between tags. With the pending text taken in, the draft is `p`.
structure Settled (k : Reader) (p : Draft) : Prop where
  mode : k.mode = .text
  pending : (textTokens k.acc.reverse).foldlM Draft.step k.draft = .ok p

theorem settled_nil (p : Draft) : Settled ⟨.text, [], p⟩ p :=
  ⟨rfl, rfl⟩

-- Text changes neither which elements are open nor the root.
theorem exists_settled (h : Resolved acc.reverse) (p : Draft) :
    ∃ p', Settled ⟨.text, acc, p⟩ p' ∧ p'.names = p.names ∧ p'.root = p.root := by
  obtain ⟨out, hout⟩ := h.stripEnds.unescape
  cases hkept : Text.stripEnds isSpace acc.reverse with
  | nil => exact ⟨p, ⟨rfl, by rw [textTokens, hkept]; rfl⟩, rfl, rfl⟩
  | cons c cs =>
      rw [hkept] at hout
      refine ⟨p.addText out, ⟨rfl, ?_⟩, p.names_addText out, p.root_addText out⟩
      simp [textTokens, hkept, Draft.step, hout]

-- The end of the document ends the text in front of it, and so does a bracket.
theorem Settled.read_nil (h : k.Settled p) : k.read [] = .ok p := by
  obtain ⟨m, acc, q⟩ := k
  obtain rfl : m = .text := h.mode
  exact h.pending

theorem Settled.reaches_opening (h : k.Settled p) : k.Reaches ['<'] ⟨.opening, [], p⟩ := by
  obtain ⟨m, acc, q⟩ := k
  obtain rfl : m = .text := h.mode
  intro rest
  rw [read, read, List.singleton_append, scan_text, if_pos rfl, List.foldlM_append, h.pending]
  rfl

end Text

section Tag

theorem reaches_name (hc : IsNameChar c) :
    Reaches ⟨.opening, acc, p⟩ [c] ⟨.tag none, [c], p⟩ := by
  intro rest
  have hne : ∀ d ∈ ['!', '/', '?', '>', '"', '\''], c ≠ d := by
    intro d hd
    exact ne_of_isNameChar hc (by revert d; decide)
  simp only [List.mem_cons, forall_eq_or_imp, List.not_mem_nil, false_implies, implies_true,
    and_true] at hne
  simp [read, scan_opening, nextQuote, hne]

-- Outside quotes, anything but the end and quotes belongs to the tag.
theorem reaches_tag (hc : c ∉ ['>', '"', '\'']) :
    Reaches ⟨.tag none, acc, p⟩ [c] ⟨.tag none, c :: acc, p⟩ := by
  intro rest
  simp only [List.mem_cons, List.not_mem_nil, or_false, not_or] at hc
  simp [read, scan_tag, nextQuote, hc]

theorem reaches_openQuote :
    Reaches ⟨.tag none, acc, p⟩ ['"'] ⟨.tag (some '"'), '"' :: acc, p⟩ :=
  fun _ => rfl

theorem reaches_quoted (hc : c ≠ '"') :
    Reaches ⟨.tag (some '"'), acc, p⟩ [c] ⟨.tag (some '"'), c :: acc, p⟩ := by
  intro rest
  simp [read, scan_tag, nextQuote, hc]

theorem reaches_closeQuote :
    Reaches ⟨.tag (some '"'), acc, p⟩ ['"'] ⟨.tag none, '"' :: acc, p⟩ :=
  fun _ => rfl

theorem reaches_attribute {a : List Char × List Char} (hkey : IsName a.1) (hvalue : IsValue a.2) :
    Reaches ⟨.tag none, acc, p⟩ (attributeText a)
      ⟨.tag none, (attributeText a).reverse ++ acc, p⟩ := by
  have hspace : Reaches ⟨.tag none, acc, p⟩ [' '] ⟨.tag none, ' ' :: acc, p⟩ :=
    reaches_tag (by decide)
  have hname : Reaches ⟨.tag none, ' ' :: acc, p⟩ a.1 ⟨.tag none, a.1.reverse ++ ' ' :: acc, p⟩ :=
    reaches_each (fun c acc hc => reaches_tag (IsNameChar.tag hc)) hkey.2
  have hequals : Reaches ⟨.tag none, a.1.reverse ++ ' ' :: acc, p⟩ ['=']
      ⟨.tag none, '=' :: (a.1.reverse ++ ' ' :: acc), p⟩ :=
    reaches_tag (by decide)
  have hquoted : Reaches ⟨.tag (some '"'), '"' :: '=' :: (a.1.reverse ++ ' ' :: acc), p⟩ a.2
      ⟨.tag (some '"'), a.2.reverse ++ '"' :: '=' :: (a.1.reverse ++ ' ' :: acc), p⟩ :=
    reaches_each (fun c acc hc => reaches_quoted hc)
      fun c hc => ne_of_mem_of_not_mem hc hvalue.unquoted
  simpa [attributeText] using hspace.trans (hname.trans (hequals.trans
    (reaches_openQuote.trans (hquoted.trans reaches_closeQuote))))

-- Attributes are read one after the other.
theorem reaches_attributes {attributes : List (List Char × List Char)}
    (hkeys : ∀ a ∈ attributes, IsName a.1) (hvalues : ∀ a ∈ attributes, IsValue a.2) :
    Reaches ⟨.tag none, acc, p⟩ (attributesText attributes)
      ⟨.tag none, (attributesText attributes).reverse ++ acc, p⟩ := by
  induction attributes generalizing acc with
  | nil => exact .refl _
  | cons a attributes ih =>
      obtain ⟨hkey, hkeys⟩ := List.forall_mem_cons.mp hkeys
      obtain ⟨hvalue, hvalues⟩ := List.forall_mem_cons.mp hvalues
      simpa [attributesText] using (reaches_attribute hkey hvalue).trans (ih hkeys hvalues)

theorem reaches_tagContent {name : List Char} {attributes : List (List Char × List Char)}
    (hname : IsName name) (h : Readable attributes) :
    Reaches ⟨.opening, acc, p⟩ (name ++ attributesText attributes)
      ⟨.tag none, (name ++ attributesText attributes).reverse, p⟩ := by
  obtain ⟨c, cs, rfl⟩ := List.exists_cons_of_ne_nil hname.1
  obtain ⟨hc, hcs⟩ := List.forall_mem_cons.mp hname.2
  have hfirst : Reaches ⟨.opening, acc, p⟩ [c] ⟨.tag none, [c], p⟩ := reaches_name hc
  have hothers : Reaches ⟨.tag none, [c], p⟩ cs ⟨.tag none, cs.reverse ++ [c], p⟩ :=
    reaches_each (fun c acc hc => reaches_tag (IsNameChar.tag hc)) hcs
  simpa using hfirst.trans (hothers.trans (reaches_attributes h.keys h.values))

-- The end of a start tag opens its element.
theorem reaches_start {e : Element} (hlast : acc.head? ≠ some '/')
    (he : elementOf acc.reverse = .ok e) :
    Reaches ⟨.tag none, acc, p⟩ ['>']
      ⟨.text, [], { p with opened := ⟨rawName acc.reverse, e⟩ :: p.opened }⟩ := by
  intro rest
  rw [read, read, List.singleton_append, scan_tag, if_pos ⟨rfl, rfl⟩, tagToken,
    List.getLast?_reverse, if_neg hlast, List.foldlM_cons, Draft.step, he]
  rfl

-- An element that is finished goes into the one around it, or is the root.
theorem attach_eq_ok (hroot : p.root = none) (e : Element) :
    ∃ p', p.attach e = .ok p' ∧ p'.names = p.names ∧
      (p.names = [] → p'.root.isSome) ∧ (p.names ≠ [] → p'.root = none) := by
  obtain ⟨opened, root⟩ := p
  obtain rfl : root = none := hroot
  cases opened with
  | nil => exact ⟨_, rfl, rfl, fun _ => rfl, fun h => absurd rfl h⟩
  | cons current outer => exact ⟨_, rfl, rfl, fun h => by simp [Draft.names] at h, fun _ => rfl⟩

theorem reaches_empty {e : Element} {p' : Draft} (he : elementOf acc.reverse = .ok e)
    (hattach : p.attach e = .ok p') :
    Reaches ⟨.tag none, '/' :: acc, p⟩ ['>'] ⟨.text, [], p'⟩ := by
  intro rest
  have htoken : tagToken ('/' :: acc).reverse = .emptyTag acc.reverse := by
    simp [tagToken]
  rw [read, read, List.singleton_append, scan_tag, if_pos ⟨rfl, rfl⟩, htoken, List.foldlM_cons,
    Draft.step, he, Result.ok_bind, hattach]
  rfl

end Tag

section Ends

theorem reaches_endTag : Reaches ⟨.opening, acc, p⟩ ['/'] ⟨.endTag, [], p⟩ :=
  fun _ => rfl

theorem reaches_endName (hc : c ≠ '>') : Reaches ⟨.endTag, acc, p⟩ [c] ⟨.endTag, c :: acc, p⟩ := by
  intro rest
  simp [read, scan_endTag, hc]

theorem endName_eq {name : List Char} (hname : ∀ c ∈ name, IsNameChar c) :
    Draft.endName name = name := by
  have hkept : name.reverse.dropWhile isSpace = name.reverse := by
    cases hreverse : name.reverse with
    | nil => rfl
    | cons c cs =>
        have hc : c ∈ name := List.mem_reverse.mp (hreverse ▸ List.mem_cons_self)
        rw [List.dropWhile_cons, isSpace_of_isNameChar (hname c hc), if_neg (by decide)]
  unfold Draft.endName
  rw [hkept, List.reverse_reverse]
  split <;> simp_all

-- An end tag closes the innermost element when the names agree.
theorem read_end {outer : List OpenElement} {current : OpenElement}
    (hname : ∀ c ∈ acc, IsNameChar c) (hopened : p.opened = current :: outer)
    (hcurrent : current.raw = acc.reverse) (rest : List Char) :
    read ⟨.endTag, acc, p⟩ ('>' :: rest) = (do
      let p' ← Draft.attach ⟨outer, p.root⟩ current.element
      read ⟨.text, [], p'⟩ rest) := by
  have hend : Draft.endName acc.reverse = current.raw := by
    rw [hcurrent]
    exact endName_eq (by simpa using hname)
  rw [read, scan_endTag, if_pos rfl, List.foldlM_cons, Draft.step, Draft.close, hopened]
  simp only [hend, if_true]
  rfl

theorem reaches_end {outer : List OpenElement} {current : OpenElement} {p' : Draft}
    (hname : ∀ c ∈ acc, IsNameChar c) (hopened : p.opened = current :: outer)
    (hcurrent : current.raw = acc.reverse)
    (hattach : Draft.attach ⟨outer, p.root⟩ current.element = .ok p') :
    Reaches ⟨.endTag, acc, p⟩ ['>'] ⟨.text, [], p'⟩ := by
  intro rest
  rw [List.singleton_append, read_end hname hopened hcurrent, hattach, Result.ok_bind]

end Ends

section Instruction

theorem reaches_instruction : Reaches ⟨.opening, acc, p⟩ ['?'] ⟨.instruction, ['?'], p⟩ :=
  fun _ => rfl

theorem reaches_instructed (hc : c ≠ '>') :
    Reaches ⟨.instruction, acc, p⟩ [c] ⟨.instruction, c :: acc, p⟩ := by
  intro rest
  simp [read, scan_instruction, hc]

theorem reaches_instructionEnd (h : instructionTokens acc.reverse = []) :
    Reaches ⟨.instruction, acc, p⟩ ['>'] ⟨.text, [], p⟩ := by
  intro rest
  simp [read, scan_instruction, h]

end Instruction

-- A document is read from its first character, and the draft it leaves must be finished.
theorem buildTree_tokens (hfirst : cs.head? ≠ some byteOrderMark) :
    buildTree (tokens cs) = (do
      let p ← read ⟨.text, [], {}⟩ cs
      p.finish) := by
  have htokens : tokens cs = scan .text [] cs := by
    cases cs with
    | nil => rfl
    | cons c cs =>
        have hc : c ≠ byteOrderMark := by simpa using hfirst
        exact if_neg hc
  rw [buildTree, htokens]
  rfl

end Reader

end Datacube.Markup
