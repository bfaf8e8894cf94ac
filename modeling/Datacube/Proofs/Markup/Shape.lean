import Datacube.Proofs.Markup.Reader

-- Markup with holes. What may be put for a hole depends on where it stands, so whether all fillings
-- can be read is seen from the markup itself.
namespace Datacube.Markup

inductive Symbol where
  | char (c : Char)
  | hole (name : String)
deriving DecidableEq

-- What is put for a hole: part of a name, part of a value between quotes, attributes with some of
-- the given keys, or markup with all its elements closed.
inductive Kind where
  | name
  | value
  | attributes (keys : List (List Char))
  | fragment
deriving DecidableEq

-- Where in the markup the reader stands. Inside a tag, the keys read so far are kept.
inductive Spot where
  | text
  | opening
  | instruction (content : List Char)
  | name (tag : List Symbol)
  | gap (tag : List Symbol) (keys : List (List Char))
  | key (tag : List Symbol) (keys : List (List Char)) (new : List Char)
  | equals (tag : List Symbol) (keys : List (List Char)) (new : List Char)
  | value (tag : List Symbol) (keys : List (List Char)) (new : List Char)
  | valued (tag : List Symbol) (keys : List (List Char))
  | slash
  | closing (tag : List Symbol)
deriving DecidableEq

-- The spot, the open elements, and whether an element outside all others is finished. There may be
-- only one of these.
structure Shape where
  spot : Spot
  opened : List (List Symbol)
  finished : Bool
deriving DecidableEq

namespace Shape

def start : Shape := ⟨.text, [], false⟩

def done : Shape := ⟨.text, [], true⟩

-- Behind the name or a value: an attribute follows, or the tag ends.
def behind (σ : Shape) (tag : List Symbol) (keys : List (List Char)) (c : Char) : Option Shape :=
  if c = ' ' then some { σ with spot := .gap tag keys }
  else if c = '>' then some { σ with spot := .text, opened := tag :: σ.opened }
  else if c = '/' then some { σ with spot := .slash }
  else none

-- The innermost element ends.
def close (σ : Shape) (tag : List Symbol) : Option Shape :=
  match σ.opened with
  | [] => none
  | top :: outer => if top = tag then some ⟨.text, outer, outer.isEmpty⟩ else none

def stepChar (σ : Shape) (c : Char) : Option Shape :=
  match σ.spot with
  | .text =>
    if c = '<' then if σ.finished then none else some { σ with spot := .opening }
    else if c = '&' then none
    else some σ
  | .opening =>
    if c = '/' then some { σ with spot := .closing [] }
    else if c = '?' then some { σ with spot := .instruction ['?'] }
    else if IsNameChar c then some { σ with spot := .name [.char c] }
    else none
  | .instruction content =>
    if c ≠ '>' then some { σ with spot := .instruction (content ++ [c]) }
    else if instructionTokens content = [] then some { σ with spot := .text }
    else none
  | .name tag =>
    if IsNameChar c then some { σ with spot := .name (tag ++ [.char c]) } else σ.behind tag [] c
  | .gap tag keys => if IsNameChar c then some { σ with spot := .key tag keys [c] } else none
  | .key tag keys new =>
    if IsNameChar c then some { σ with spot := .key tag keys (new ++ [c]) }
    else if c = '=' ∧ new ∉ keys then some { σ with spot := .equals tag keys new }
    else none
  | .equals tag keys new => if c = '"' then some { σ with spot := .value tag keys new } else none
  | .value tag keys new =>
    if c = '"' then some { σ with spot := .valued tag (new :: keys) }
    else if c = '&' then none
    else some σ
  | .valued tag keys => σ.behind tag keys c
  | .slash =>
    if c = '>' then some { σ with spot := .text, finished := σ.opened.isEmpty } else none
  | .closing tag =>
    if IsNameChar c then some { σ with spot := .closing (tag ++ [.char c]) }
    else if c = '>' then σ.close tag
    else none

def stepHole (kinds : List (String × Kind)) (σ : Shape) (hole : String) : Option Shape :=
  match σ.spot with
  | .text => if (hole, .fragment) ∈ kinds ∧ σ.opened ≠ [] then some σ else none
  | .name tag =>
    if (hole, .name) ∈ kinds then some { σ with spot := .name (tag ++ [.hole hole]) } else none
  | .value _ _ _ => if (hole, .value) ∈ kinds then some σ else none
  | .valued tag keys =>
    match kinds.lookup hole with
    | some (.attributes more) =>
      if ∀ key ∈ more, key ∉ keys then some { σ with spot := .valued tag (more ++ keys) } else none
    | _ => none
  | .closing tag =>
    if (hole, .name) ∈ kinds then some { σ with spot := .closing (tag ++ [.hole hole]) } else none
  | _ => none

def step (kinds : List (String × Kind)) (σ : Shape) : Symbol → Option Shape
  | .char c => σ.stepChar c
  | .hole name => σ.stepHole kinds name

end Shape

-- Markup that leaves the open elements as they are, wherever it stands in one.
def Fragment (cs : List Char) : Prop :=
  ∀ (p : Draft) (acc : List Char), p.names ≠ [] → p.root = none → Resolved acc.reverse →
    ∃ p' acc', p'.names = p.names ∧ p'.root = none ∧ Resolved acc'.reverse ∧
      Reader.Reaches ⟨.text, acc, p⟩ cs ⟨.text, acc', p'⟩

def Kind.Admits : Kind → List Char → Prop
  | name, cs => ∀ c ∈ cs, IsNameChar c
  | value, cs => IsValue cs
  | attributes keys, cs => ∃ attributes, Readable attributes ∧ (∀ a ∈ attributes, a.1 ∈ keys) ∧
      cs = attributesText attributes
  | fragment, cs => Fragment cs

def Symbol.text (values : String → List Char) : Symbol → List Char
  | char c => [c]
  | hole name => values name

def textOf (values : String → List Char) (symbols : List Symbol) : List Char :=
  symbols.flatMap (Symbol.text values)

-- The content of a tag up to the end of an attribute.
def InTag (values : String → List Char) (name : List Symbol) (keys : List (List Char))
    (cs : List Char) : Prop :=
  ∃ attributes, Readable attributes ∧ (∀ a ∈ attributes, a.1 ∈ keys) ∧
    IsName (textOf values name) ∧ cs = textOf values name ++ attributesText attributes

-- The scanner is at the spot once values are put for the holes.
def Spot.At (values : String → List Char) : Spot → Mode → List Char → Prop
  | .text, m, acc => m = .text ∧ Resolved acc.reverse
  | .opening, m, _ => m = .opening
  | .instruction content, m, acc => m = .instruction ∧ acc.reverse = content
  | .name tag, m, acc => m = .tag none ∧ acc.reverse = textOf values tag ∧
      IsName (textOf values tag)
  | .gap tag keys, m, acc => m = .tag none ∧ ∃ cs, InTag values tag keys cs ∧
      acc.reverse = cs ++ [' ']
  | .key tag keys new, m, acc => m = .tag none ∧ IsName new ∧ ∃ cs, InTag values tag keys cs ∧
      acc.reverse = cs ++ ' ' :: new
  | .equals tag keys new, m, acc => m = .tag none ∧ IsName new ∧ new ∉ keys ∧
      ∃ cs, InTag values tag keys cs ∧ acc.reverse = cs ++ ' ' :: (new ++ ['='])
  | .value tag keys new, m, acc => m = .tag (some '"') ∧ IsName new ∧ new ∉ keys ∧
      ∃ cs part, InTag values tag keys cs ∧ IsValue part ∧
        acc.reverse = cs ++ ' ' :: (new ++ '=' :: '"' :: part)
  | .valued tag keys, m, acc => m = .tag none ∧ InTag values tag keys acc.reverse
  | .slash, m, acc => m = .tag none ∧ ∃ tag keys cs, InTag values tag keys cs ∧
      acc.reverse = cs ++ ['/']
  | .closing tag, m, acc => m = .endTag ∧ acc.reverse = textOf values tag ∧
      ∀ c ∈ textOf values tag, IsNameChar c

-- A reader that got as far as a shape of the markup, inside the given elements. Outside of all
-- elements, the one that is finished is the root.
structure At (values : String → List Char) (base : List (List Char)) (σ : Shape) (k : Reader) :
    Prop where
  spot : σ.spot.At values k.mode k.acc
  names : k.draft.names = σ.opened.map (textOf values) ++ base
  single : σ.finished = true → σ.opened = [] ∧ σ.spot = .text
  unrooted : ¬(base = [] ∧ σ.finished = true) → k.draft.root = none
  rooted : base = [] → σ.finished = true → k.draft.root.isSome

section Step

variable {values : String → List Char} {base : List (List Char)} {σ σ' : Shape} {k : Reader}
  {name : List Symbol} {keys : List (List Char)} {cs acc : List Char} {c : Char} {p : Draft}

@[simp] theorem textOf_append (symbols more : List Symbol) :
    textOf values (symbols ++ more) = textOf values symbols ++ textOf values more :=
  List.flatMap_append

@[simp] theorem textOf_char (c : Char) : textOf values [.char c] = [c] := rfl

@[simp] theorem textOf_hole (name : String) : textOf values [.hole name] = values name := by
  simp [textOf, Symbol.text]

theorem InTag.elementOf (h : InTag values name keys cs) :
    ∃ e, Markup.elementOf cs = .ok e ∧ rawName cs = textOf values name := by
  obtain ⟨attributes, hreadable, -, ⟨-, hname⟩, rfl⟩ := h
  obtain ⟨e, he⟩ := elementOf_eq_ok hname hreadable
  exact ⟨e, he, rawName_append hname⟩

theorem InTag.getLast_ne (h : InTag values name keys cs) : cs.getLast? ≠ some '/' := by
  obtain ⟨attributes, -, -, hname, rfl⟩ := h
  exact getLast_append_ne hname

theorem InTag.of_name (h : IsName (textOf values name)) :
    InTag values name [] (textOf values name) :=
  ⟨[], ⟨by simp, by simp, by simp⟩, by simp, h, by simp [attributesText]⟩

-- Further attributes with new keys.
theorem InTag.append {more : List (List Char)} {attributes : List (List Char × List Char)}
    (h : InTag values name keys cs) (hattributes : Readable attributes)
    (hmore : ∀ a ∈ attributes, a.1 ∈ more) (hdisjoint : ∀ key ∈ more, key ∉ keys) :
    InTag values name (more ++ keys) (cs ++ attributesText attributes) := by
  obtain ⟨earlier, hearlier, hkeys, hname, rfl⟩ := h
  refine ⟨earlier ++ attributes, ⟨?_, ?_, ?_⟩, ?_, hname, ?_⟩
  · exact List.forall_mem_append.mpr ⟨hearlier.keys, hattributes.keys⟩
  · exact List.forall_mem_append.mpr ⟨hearlier.values, hattributes.values⟩
  · rw [List.map_append, List.nodup_append]
    refine ⟨hearlier.distinct, hattributes.distinct, fun key hkey key' hkey' hsame => ?_⟩
    obtain ⟨a, ha, rfl⟩ := List.mem_map.mp hkey
    obtain ⟨b, hb, rfl⟩ := List.mem_map.mp hkey'
    exact hdisjoint b.1 (hmore b hb) (hsame ▸ hkeys a ha)
  · intro a ha
    rcases List.mem_append.mp ha with ha | ha
    · exact List.mem_append_right _ (hkeys a ha)
    · exact List.mem_append_left _ (hmore a ha)
  · simp [attributesText]

theorem InTag.attribute {key value : List Char} (h : InTag values name keys cs) (hkey : IsName key)
    (hnew : key ∉ keys) (hvalue : IsValue value) :
    InTag values name (key :: keys) (cs ++ ' ' :: (key ++ '=' :: '"' :: (value ++ ['"']))) := by
  have hone : Readable [(key, value)] := ⟨by simpa using hkey, by simpa using hvalue, by simp⟩
  have hdisjoint : ∀ k ∈ [key], k ∉ keys := by simpa using hnew
  simpa [attributesText, attributeText] using h.append hone (by simp) hdisjoint

-- Inside a tag no element outside all others is finished yet.
theorem At.unfinished {spot : Spot} {opened : List (List Symbol)} {finished : Bool}
    (h : At values base ⟨spot, opened, finished⟩ k) (hspot : spot ≠ .text) : finished = false := by
  cases finished with
  | false => rfl
  | true => exact absurd (h.single rfl).2 hspot

-- The draft changes at the ends of tags only.
theorem At.move {spot spot' : Spot} {opened : List (List Symbol)} {m : Mode}
    (h : At values base ⟨spot, opened, false⟩ k) (hspot : spot'.At values m acc) :
    At values base ⟨spot', opened, false⟩ ⟨m, acc, k.draft⟩ :=
  ⟨hspot, h.names, by simp, h.unrooted, by simp⟩

theorem At.behind {spot : Spot} {opened : List (List Symbol)} {tag : List Symbol}
    (h : At values base ⟨spot, opened, false⟩ ⟨.tag none, acc, p⟩)
    (htag : InTag values tag keys acc.reverse)
    (hstep : Shape.behind ⟨spot, opened, false⟩ tag keys c = some σ') :
    ∃ k', Reader.Reaches ⟨.tag none, acc, p⟩ [c] k' ∧ At values base σ' k' := by
  unfold Shape.behind at hstep
  split at hstep
  · next hc =>
    obtain rfl := Option.some.inj hstep
    subst hc
    exact ⟨_, Reader.reaches_tag (by decide), h.move ⟨rfl, _, htag, by simp⟩⟩
  · split at hstep
    · next hc =>
      obtain rfl := Option.some.inj hstep
      subst hc
      obtain ⟨e, he, hraw⟩ := htag.elementOf
      have hlast : acc.head? ≠ some '/' := by simpa using htag.getLast_ne
      refine ⟨_, Reader.reaches_start hlast he, ⟨⟨rfl, .nil⟩, ?_, by simp, h.unrooted, by simp⟩⟩
      simpa [Draft.names, hraw] using h.names
    · split at hstep
      · next hc =>
        obtain rfl := Option.some.inj hstep
        subst hc
        exact ⟨_, Reader.reaches_tag (by decide), h.move ⟨rfl, _, _, _, htag, by simp⟩⟩
      · cases hstep

-- An element has ended; if none is open around it, it is the root.
theorem at_finished {opened : List (List Symbol)}
    (hnames : p.names = opened.map (textOf values) ++ base)
    (hrooted : p.names = [] → p.root.isSome) (hunrooted : p.names ≠ [] → p.root = none) :
    At values base ⟨.text, opened, opened.isEmpty⟩ ⟨.text, [], p⟩ := by
  refine ⟨⟨rfl, .nil⟩, hnames, fun h => ⟨List.isEmpty_iff.mp h, rfl⟩, fun h => hunrooted ?_,
    fun hbase h => hrooted ?_⟩
  · intro hnone
    rw [hnames, List.append_eq_nil_iff, List.map_eq_nil_iff] at hnone
    exact h ⟨hnone.2, List.isEmpty_iff.mpr hnone.1⟩
  · rw [hnames, hbase, List.isEmpty_iff.mp h]
    rfl

theorem At.close {opened : List (List Symbol)} {tag : List Symbol}
    (h : At values base ⟨.closing tag, opened, false⟩ ⟨.endTag, acc, p⟩)
    (hstep : Shape.close ⟨.closing tag, opened, false⟩ tag = some σ') :
    ∃ k', Reader.Reaches ⟨.endTag, acc, p⟩ ['>'] k' ∧ At values base σ' k' := by
  obtain ⟨-, hacc, hname⟩ := h.spot
  have hroot : p.root = none := h.unrooted (by simp)
  simp only [Shape.close] at hstep
  split at hstep
  · cases hstep
  · next top outer =>
    split at hstep
    · next hsame =>
      obtain rfl := Option.some.inj hstep
      subst hsame
      obtain ⟨current, elements, hopened, hcurrent, helements⟩ : ∃ current elements,
          p.opened = current :: elements ∧ current.raw = textOf values top ∧
            Draft.names ⟨elements, p.root⟩ = outer.map (textOf values) ++ base := by
        have hnames := h.names
        simp only [Draft.names, List.map_cons, List.cons_append, List.map_eq_cons_iff] at hnames
        exact hnames
      obtain ⟨p', hattach, hnames, hrooted, hunrooted⟩ :=
        @Reader.attach_eq_ok ⟨elements, p.root⟩ hroot current.element
      refine ⟨⟨.text, [], p'⟩, Reader.reaches_end ?_ hopened (hcurrent.trans hacc.symm) hattach,
        at_finished (hnames.trans helements) (hnames ▸ hrooted) (hnames ▸ hunrooted)⟩
      exact fun c hc => hname c (hacc ▸ List.mem_reverse.mpr hc)
    · cases hstep

variable {opened : List (List Symbol)} {finished : Bool} {tag : List Symbol}
  {content new : List Char}

-- Reading one character keeps the reader at the shape of the markup, wherever it stands.
theorem At.readText (h : At values base ⟨.text, opened, finished⟩ k)
    (hstep : Shape.stepChar ⟨.text, opened, finished⟩ c = some σ') :
    ∃ k', k.Reaches [c] k' ∧ At values base σ' k' := by
  obtain ⟨m, acc, p⟩ := k
  obtain ⟨rfl, hacc⟩ := h.spot
  simp only [Shape.stepChar] at hstep
  split at hstep
  · next hc =>
    subst hc
    split at hstep
    · cases hstep
    · next hfinished =>
      obtain rfl := Option.some.inj hstep
      obtain rfl : finished = false := by simpa using hfinished
      obtain ⟨p', hsettled, hnames, hroot⟩ := Reader.exists_settled hacc p
      exact ⟨_, hsettled.reaches_opening, ⟨rfl, hnames.trans h.names, by simp,
        fun _ => hroot.trans (h.unrooted (by simp)), by simp⟩⟩
  · next hc =>
    split at hstep
    · cases hstep
    · next hamp =>
      obtain rfl := Option.some.inj hstep
      refine ⟨_, Reader.reaches_text hc, ⟨⟨rfl, ?_⟩, h.names, h.single, h.unrooted, h.rooted⟩⟩
      simpa using hacc.append (.char hamp .nil)

theorem At.readOpening (h : At values base ⟨.opening, opened, finished⟩ k)
    (hstep : Shape.stepChar ⟨.opening, opened, finished⟩ c = some σ') :
    ∃ k', k.Reaches [c] k' ∧ At values base σ' k' := by
  obtain ⟨m, acc, p⟩ := k
  obtain rfl := h.unfinished (by simp)
  obtain rfl := h.spot
  simp only [Shape.stepChar] at hstep
  split at hstep
  · next hc =>
    obtain rfl := Option.some.inj hstep
    subst hc
    exact ⟨_, Reader.reaches_endTag, h.move ⟨rfl, rfl, by simp [textOf]⟩⟩
  · split at hstep
    · next hc =>
      obtain rfl := Option.some.inj hstep
      subst hc
      exact ⟨_, Reader.reaches_instruction, h.move ⟨rfl, rfl⟩⟩
    · split at hstep
      · next hc =>
        obtain rfl := Option.some.inj hstep
        exact ⟨_, Reader.reaches_name hc, h.move ⟨rfl, rfl, by simp, by simpa using hc⟩⟩
      · cases hstep

theorem At.readInstruction (h : At values base ⟨.instruction content, opened, finished⟩ k)
    (hstep : Shape.stepChar ⟨.instruction content, opened, finished⟩ c = some σ') :
    ∃ k', k.Reaches [c] k' ∧ At values base σ' k' := by
  obtain ⟨m, acc, p⟩ := k
  obtain rfl := h.unfinished (by simp)
  obtain ⟨rfl, hcontent⟩ := h.spot
  simp only [Shape.stepChar] at hstep
  split at hstep
  · next hc =>
    obtain rfl := Option.some.inj hstep
    exact ⟨_, Reader.reaches_instructed hc, h.move ⟨rfl, by simp [← hcontent]⟩⟩
  · next hc =>
    obtain rfl : c = '>' := not_not.mp hc
    split at hstep
    · next htokens =>
      obtain rfl := Option.some.inj hstep
      exact ⟨_, Reader.reaches_instructionEnd (hcontent ▸ htokens), h.move ⟨rfl, .nil⟩⟩
    · cases hstep

theorem At.readName (h : At values base ⟨.name tag, opened, finished⟩ k)
    (hstep : Shape.stepChar ⟨.name tag, opened, finished⟩ c = some σ') :
    ∃ k', k.Reaches [c] k' ∧ At values base σ' k' := by
  obtain ⟨m, acc, p⟩ := k
  obtain rfl := h.unfinished (by simp)
  obtain ⟨rfl, hacc, hname⟩ := h.spot
  simp only [Shape.stepChar] at hstep
  split at hstep
  · next hc =>
    obtain rfl := Option.some.inj hstep
    refine ⟨_, Reader.reaches_tag hc.tag, h.move ⟨rfl, ?_, ?_⟩⟩
    · rw [textOf_append, ← hacc, textOf_char, List.reverse_cons]
    · rw [textOf_append, textOf_char]
      exact ⟨by simp, List.forall_mem_append.mpr ⟨hname.2, by simpa using hc⟩⟩
  · exact h.behind (hacc ▸ .of_name hname) hstep

theorem At.readGap (h : At values base ⟨.gap tag keys, opened, finished⟩ k)
    (hstep : Shape.stepChar ⟨.gap tag keys, opened, finished⟩ c = some σ') :
    ∃ k', k.Reaches [c] k' ∧ At values base σ' k' := by
  obtain ⟨m, acc, p⟩ := k
  obtain rfl := h.unfinished (by simp)
  obtain ⟨rfl, cs, htag, hacc⟩ := h.spot
  simp only [Shape.stepChar] at hstep
  split at hstep
  · next hc =>
    obtain rfl := Option.some.inj hstep
    exact ⟨_, Reader.reaches_tag hc.tag, h.move ⟨rfl, ⟨by simp, by simpa using hc⟩, cs, htag,
      by simp [hacc]⟩⟩
  · cases hstep

theorem At.readKey (h : At values base ⟨.key tag keys new, opened, finished⟩ k)
    (hstep : Shape.stepChar ⟨.key tag keys new, opened, finished⟩ c = some σ') :
    ∃ k', k.Reaches [c] k' ∧ At values base σ' k' := by
  obtain ⟨m, acc, p⟩ := k
  obtain rfl := h.unfinished (by simp)
  obtain ⟨rfl, hnew, cs, htag, hacc⟩ := h.spot
  simp only [Shape.stepChar] at hstep
  split at hstep
  · next hc =>
    obtain rfl := Option.some.inj hstep
    refine ⟨_, Reader.reaches_tag hc.tag, h.move ⟨rfl, ⟨by simp, ?_⟩, cs, htag,
      by simp [hacc]⟩⟩
    exact List.forall_mem_append.mpr ⟨hnew.2, by simpa using hc⟩
  · split at hstep
    · next hc =>
      obtain ⟨rfl, hfresh⟩ := hc
      obtain rfl := Option.some.inj hstep
      exact ⟨_, Reader.reaches_tag (by decide), h.move ⟨rfl, hnew, hfresh, cs, htag,
        by simp [hacc]⟩⟩
    · cases hstep

theorem At.readEquals (h : At values base ⟨.equals tag keys new, opened, finished⟩ k)
    (hstep : Shape.stepChar ⟨.equals tag keys new, opened, finished⟩ c = some σ') :
    ∃ k', k.Reaches [c] k' ∧ At values base σ' k' := by
  obtain ⟨m, acc, p⟩ := k
  obtain rfl := h.unfinished (by simp)
  obtain ⟨rfl, hnew, hfresh, cs, htag, hacc⟩ := h.spot
  simp only [Shape.stepChar] at hstep
  split at hstep
  · next hc =>
    subst hc
    obtain rfl := Option.some.inj hstep
    exact ⟨_, Reader.reaches_openQuote, h.move ⟨rfl, hnew, hfresh, cs, [], htag,
      ⟨by simp, .nil⟩, by simp [hacc]⟩⟩
  · cases hstep

theorem At.readValue (h : At values base ⟨.value tag keys new, opened, finished⟩ k)
    (hstep : Shape.stepChar ⟨.value tag keys new, opened, finished⟩ c = some σ') :
    ∃ k', k.Reaches [c] k' ∧ At values base σ' k' := by
  obtain ⟨m, acc, p⟩ := k
  obtain rfl := h.unfinished (by simp)
  obtain ⟨rfl, hnew, hfresh, cs, part, htag, hpart, hacc⟩ := h.spot
  simp only [Shape.stepChar] at hstep
  split at hstep
  · next hc =>
    subst hc
    obtain rfl := Option.some.inj hstep
    refine ⟨_, Reader.reaches_closeQuote, h.move ⟨rfl, ?_⟩⟩
    simpa [hacc] using htag.attribute hnew hfresh hpart
  · next hquote =>
    split at hstep
    · cases hstep
    · next hamp =>
      obtain rfl := Option.some.inj hstep
      refine ⟨_, Reader.reaches_quoted hquote, h.move ⟨rfl, hnew, hfresh, cs, part ++ [c], htag,
        ⟨?_, hpart.resolved.append (.char hamp .nil)⟩, by simp [hacc]⟩⟩
      simpa [hpart.unquoted] using Ne.symm hquote

theorem At.readValued (h : At values base ⟨.valued tag keys, opened, finished⟩ k)
    (hstep : Shape.stepChar ⟨.valued tag keys, opened, finished⟩ c = some σ') :
    ∃ k', k.Reaches [c] k' ∧ At values base σ' k' := by
  obtain ⟨m, acc, p⟩ := k
  obtain rfl := h.unfinished (by simp)
  obtain ⟨rfl, htag⟩ := h.spot
  exact h.behind htag hstep

theorem At.readSlash (h : At values base ⟨.slash, opened, finished⟩ k)
    (hstep : Shape.stepChar ⟨.slash, opened, finished⟩ c = some σ') :
    ∃ k', k.Reaches [c] k' ∧ At values base σ' k' := by
  obtain ⟨m, acc, p⟩ := k
  obtain rfl := h.unfinished (by simp)
  obtain ⟨rfl, tag, keys, cs, htag, hacc⟩ := h.spot
  simp only [Shape.stepChar] at hstep
  split at hstep
  · next hc =>
    subst hc
    obtain rfl := Option.some.inj hstep
    obtain ⟨e, he, -⟩ := htag.elementOf
    obtain ⟨p', hattach, hnames, hrooted, hunrooted⟩ :=
      Reader.attach_eq_ok (h.unrooted (by simp)) e
    obtain rfl : acc = '/' :: cs.reverse := by
      rw [← List.reverse_reverse acc, hacc]
      simp
    exact ⟨_, Reader.reaches_empty (by simpa using he) hattach,
      at_finished (hnames.trans h.names) (hnames ▸ hrooted) (hnames ▸ hunrooted)⟩
  · cases hstep

theorem At.readClosing (h : At values base ⟨.closing tag, opened, finished⟩ k)
    (hstep : Shape.stepChar ⟨.closing tag, opened, finished⟩ c = some σ') :
    ∃ k', k.Reaches [c] k' ∧ At values base σ' k' := by
  obtain ⟨m, acc, p⟩ := k
  obtain rfl := h.unfinished (by simp)
  obtain ⟨rfl, hacc, hname⟩ := h.spot
  simp only [Shape.stepChar] at hstep
  split at hstep
  · next hc =>
    obtain rfl := Option.some.inj hstep
    refine ⟨_, Reader.reaches_endName (ne_of_isNameChar hc (by decide)), h.move ⟨rfl, ?_, ?_⟩⟩
    · rw [textOf_append, ← hacc, textOf_char, List.reverse_cons]
    · rw [textOf_append, textOf_char]
      exact List.forall_mem_append.mpr ⟨hname, by simpa using hc⟩
  · split at hstep
    · next hc =>
      subst hc
      exact h.close hstep
    · cases hstep

theorem At.stepChar (h : At values base σ k) (hstep : σ.stepChar c = some σ') :
    ∃ k', k.Reaches [c] k' ∧ At values base σ' k' := by
  obtain ⟨spot, opened, finished⟩ := σ
  cases spot with
  | text => exact h.readText hstep
  | opening => exact h.readOpening hstep
  | instruction _ => exact h.readInstruction hstep
  | name _ => exact h.readName hstep
  | gap _ _ => exact h.readGap hstep
  | key _ _ _ => exact h.readKey hstep
  | equals _ _ _ => exact h.readEquals hstep
  | value _ _ _ => exact h.readValue hstep
  | valued _ _ => exact h.readValued hstep
  | slash => exact h.readSlash hstep
  | closing _ => exact h.readClosing hstep

variable {kinds : List (String × Kind)} {hole : String}

-- So does reading what is put for a hole.
theorem At.fillText (hkinds : ∀ entry ∈ kinds, entry.2.Admits (values entry.1))
    (h : At values base ⟨.text, opened, finished⟩ k)
    (hstep : Shape.stepHole kinds ⟨.text, opened, finished⟩ hole = some σ') :
    ∃ k', k.Reaches (values hole) k' ∧ At values base σ' k' := by
  obtain ⟨m, acc, p⟩ := k
  obtain ⟨rfl, hacc⟩ := h.spot
  simp only [Shape.stepHole] at hstep
  split at hstep
  · next hfragment =>
    obtain ⟨hmem, hopened⟩ := hfragment
    obtain rfl := Option.some.inj hstep
    obtain rfl : finished = false := by
      cases finished with
      | false => rfl
      | true => exact absurd (h.single rfl).1 hopened
    have hinside : p.names ≠ [] := by
      rw [h.names]
      simp [hopened]
    obtain ⟨p', acc', hnames, hroot, hacc', hreaches⟩ :=
      hkinds _ hmem p acc hinside (h.unrooted (by simp)) hacc
    exact ⟨_, hreaches, ⟨rfl, hacc'⟩, hnames.trans h.names, by simp, fun _ => hroot, by simp⟩
  · cases hstep

theorem At.fillName (hkinds : ∀ entry ∈ kinds, entry.2.Admits (values entry.1))
    (h : At values base ⟨.name tag, opened, finished⟩ k)
    (hstep : Shape.stepHole kinds ⟨.name tag, opened, finished⟩ hole = some σ') :
    ∃ k', k.Reaches (values hole) k' ∧ At values base σ' k' := by
  obtain ⟨m, acc, p⟩ := k
  obtain rfl := h.unfinished (by simp)
  obtain ⟨rfl, hacc, hname⟩ := h.spot
  simp only [Shape.stepHole] at hstep
  split at hstep
  · next hmem =>
    obtain rfl := Option.some.inj hstep
    have hvalue : ∀ c ∈ values hole, IsNameChar c := hkinds _ hmem
    refine ⟨_,
      Reader.reaches_each (fun c acc hc => Reader.reaches_tag (IsNameChar.tag hc)) hvalue,
      h.move ⟨rfl, by simp [hacc], by simp [hname.1], ?_⟩⟩
    simpa using List.forall_mem_append.mpr ⟨hname.2, hvalue⟩
  · cases hstep

theorem At.fillValue (hkinds : ∀ entry ∈ kinds, entry.2.Admits (values entry.1))
    (h : At values base ⟨.value tag keys new, opened, finished⟩ k)
    (hstep : Shape.stepHole kinds ⟨.value tag keys new, opened, finished⟩ hole = some σ') :
    ∃ k', k.Reaches (values hole) k' ∧ At values base σ' k' := by
  obtain ⟨m, acc, p⟩ := k
  obtain rfl := h.unfinished (by simp)
  obtain ⟨rfl, hnew, hfresh, cs, part, htag, hpart, hacc⟩ := h.spot
  simp only [Shape.stepHole] at hstep
  split at hstep
  · next hmem =>
    obtain rfl := Option.some.inj hstep
    have hvalue : IsValue (values hole) := hkinds _ hmem
    refine ⟨_, Reader.reaches_each (fun c acc hc => Reader.reaches_quoted hc)
      (fun c hc => ne_of_mem_of_not_mem hc hvalue.unquoted), h.move ⟨rfl, hnew, hfresh, cs,
        part ++ values hole, htag, ⟨?_, hpart.resolved.append hvalue.resolved⟩, by simp [hacc]⟩⟩
    simp [hpart.unquoted, hvalue.unquoted]
  · cases hstep

theorem At.fillValued (hkinds : ∀ entry ∈ kinds, entry.2.Admits (values entry.1))
    (h : At values base ⟨.valued tag keys, opened, finished⟩ k)
    (hstep : Shape.stepHole kinds ⟨.valued tag keys, opened, finished⟩ hole = some σ') :
    ∃ k', k.Reaches (values hole) k' ∧ At values base σ' k' := by
  obtain ⟨m, acc, p⟩ := k
  obtain rfl := h.unfinished (by simp)
  obtain ⟨rfl, htag⟩ := h.spot
  simp only [Shape.stepHole] at hstep
  split at hstep
  · next more hlookup =>
    split at hstep
    · next hdisjoint =>
      obtain rfl := Option.some.inj hstep
      obtain ⟨before, after, rfl, -⟩ := List.lookup_eq_some_iff.mp hlookup
      obtain ⟨attributes, hreadable, hkeys, hvalue⟩ := hkinds (hole, .attributes more) (by simp)
      refine ⟨⟨.tag none, (values hole).reverse ++ acc, p⟩, ?_, h.move ⟨rfl, ?_⟩⟩
      · rw [hvalue]
        exact Reader.reaches_attributes hreadable.keys hreadable.values
      · simpa [hvalue] using htag.append hreadable hkeys hdisjoint
    · cases hstep
  · cases hstep

theorem At.fillClosing (hkinds : ∀ entry ∈ kinds, entry.2.Admits (values entry.1))
    (h : At values base ⟨.closing tag, opened, finished⟩ k)
    (hstep : Shape.stepHole kinds ⟨.closing tag, opened, finished⟩ hole = some σ') :
    ∃ k', k.Reaches (values hole) k' ∧ At values base σ' k' := by
  obtain ⟨m, acc, p⟩ := k
  obtain rfl := h.unfinished (by simp)
  obtain ⟨rfl, hacc, hname⟩ := h.spot
  simp only [Shape.stepHole] at hstep
  split at hstep
  · next hmem =>
    obtain rfl := Option.some.inj hstep
    have hvalue : ∀ c ∈ values hole, IsNameChar c := hkinds _ hmem
    refine ⟨_, Reader.reaches_each (fun c acc hc =>
      Reader.reaches_endName (ne_of_isNameChar hc (by decide))) hvalue,
      h.move ⟨rfl, by simp [hacc], ?_⟩⟩
    simpa using List.forall_mem_append.mpr ⟨hname, hvalue⟩
  · cases hstep

theorem At.stepHole (hkinds : ∀ entry ∈ kinds, entry.2.Admits (values entry.1))
    (h : At values base σ k) (hstep : σ.stepHole kinds hole = some σ') :
    ∃ k', k.Reaches (values hole) k' ∧ At values base σ' k' := by
  obtain ⟨spot, opened, finished⟩ := σ
  cases spot with
  | text => exact h.fillText hkinds hstep
  | name _ => exact h.fillName hkinds hstep
  | value _ _ _ => exact h.fillValue hkinds hstep
  | valued _ _ => exact h.fillValued hkinds hstep
  | closing _ => exact h.fillClosing hkinds hstep
  | _ => cases hstep

theorem At.run (hkinds : ∀ entry ∈ kinds, entry.2.Admits (values entry.1))
    {symbols : List Symbol} (h : At values base σ k)
    (hrun : symbols.foldlM (Shape.step kinds) σ = some σ') :
    ∃ k', k.Reaches (textOf values symbols) k' ∧ At values base σ' k' := by
  induction symbols generalizing σ k with
  | nil =>
      obtain rfl := Option.some.inj hrun
      exact ⟨k, .refl k, h⟩
  | cons s symbols ih =>
      rw [List.foldlM_cons, Option.bind_eq_bind, Option.bind_eq_some_iff] at hrun
      obtain ⟨σ₁, hstep, hrest⟩ := hrun
      obtain ⟨k₁, hreaches, h₁⟩ : ∃ k₁, k.Reaches (s.text values) k₁ ∧ At values base σ₁ k₁ := by
        cases s with
        | char c => exact h.stepChar hstep
        | hole name => exact h.stepHole hkinds hstep
      obtain ⟨k', hmore, h'⟩ := ih h₁ hrest
      exact ⟨k', hreaches.trans hmore, h'⟩

end Step

section Fragment

variable {cs ds : List Char}

theorem fragment_text (h : Resolved cs) (hmarkup : '<' ∉ cs) : Fragment cs := by
  intro p acc hinside hroot hacc
  refine ⟨p, cs.reverse ++ acc, rfl, hroot, by simpa using hacc.append h, ?_⟩
  exact Reader.reaches_each (fun c acc hc => Reader.reaches_text hc)
    fun c hc => ne_of_mem_of_not_mem hc hmarkup

theorem fragment_nil : Fragment [] :=
  fragment_text .nil (by simp)

theorem Fragment.append (hcs : Fragment cs) (hds : Fragment ds) : Fragment (cs ++ ds) := by
  intro p acc hinside hroot hacc
  obtain ⟨p₁, acc₁, hnames₁, hroot₁, hacc₁, hreaches₁⟩ := hcs p acc hinside hroot hacc
  obtain ⟨p₂, acc₂, hnames₂, hroot₂, hacc₂, hreaches₂⟩ :=
    hds p₁ acc₁ (hnames₁ ▸ hinside) hroot₁ hacc₁
  exact ⟨p₂, acc₂, hnames₂.trans hnames₁, hroot₂, hacc₂, hreaches₁.trans hreaches₂⟩

end Fragment

section Run

variable {values : String → List Char} {kinds : List (String × Kind)} {symbols : List Symbol}

-- Every filling of markup that is checked is a fragment.
theorem fragment_of_run (hkinds : ∀ entry ∈ kinds, entry.2.Admits (values entry.1))
    (hrun : symbols.foldlM (Shape.step kinds) Shape.start = some Shape.done) :
    Fragment (textOf values symbols) := by
  intro p acc hinside hroot hacc
  have hstart : At values p.names Shape.start ⟨.text, acc, p⟩ :=
    ⟨⟨rfl, hacc⟩, by simp [Shape.start], by simp [Shape.start], fun _ => hroot,
      by simp [Shape.start]⟩
  obtain ⟨⟨m, acc', p'⟩, hreaches, hdone⟩ := hstart.run hkinds hrun
  obtain ⟨rfl, hacc'⟩ := hdone.spot
  exact ⟨p', acc', by simpa [Shape.done] using hdone.names,
    hdone.unrooted fun h => hinside h.1, hacc', hreaches⟩

-- So is every filling a document that can be read, if it stands alone.
theorem parse_of_run (hkinds : ∀ entry ∈ kinds, entry.2.Admits (values entry.1))
    (hfirst : symbols.head? = some (.char '<'))
    (hrun : symbols.foldlM (Shape.step kinds) Shape.start = some Shape.done) :
    ∃ root, Element.parse (String.ofList (textOf values symbols)) = .ok root := by
  have hstart : At values [] Shape.start ⟨.text, [], {}⟩ :=
    ⟨⟨rfl, .nil⟩, rfl, by simp [Shape.start], fun _ => rfl, by simp [Shape.start]⟩
  obtain ⟨⟨m, acc, p⟩, hreaches, hdone⟩ := hstart.run hkinds hrun
  obtain ⟨rfl, hacc⟩ := hdone.spot
  obtain ⟨p', hsettled, hnames, hroot⟩ := Reader.exists_settled hacc p
  have hread : Reader.read ⟨.text, [], {}⟩ (textOf values symbols) = .ok p' := by
    have hwhole := hreaches []
    rw [List.append_nil] at hwhole
    exact hwhole.trans hsettled.read_nil
  have hunmarked : (textOf values symbols).head? ≠ some byteOrderMark := by
    obtain ⟨rest, rfl⟩ := List.head?_eq_some_iff.mp hfirst
    exact fun hmark => absurd (Option.some.inj hmark) (by decide)
  obtain ⟨root, hsome⟩ := Option.isSome_iff_exists.mp (hdone.rooted rfl rfl)
  have hopened : p'.opened = [] := by
    have hnone := hnames.trans hdone.names
    simpa [Draft.names, Shape.done] using hnone
  refine ⟨root, ?_⟩
  have htree : buildTree (tokens (textOf values symbols)) = .ok root := by
    rw [Reader.buildTree_tokens hunmarked, hread, Result.ok_bind, Draft.finish, hopened,
      hroot.trans hsome]
  rw [Element.parse, String.toList_ofList, htree]

end Run

end Datacube.Markup
