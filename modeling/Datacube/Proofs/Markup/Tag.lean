import Datacube.Markup.Document
import Datacube.Proofs.Markup.Entity

-- Tags whose attributes are written with double quotes, and how they are read.
namespace Datacube.Markup

-- Letters, digits, and the colon behind a short name of a namespace.
def IsNameChar (c : Char) : Prop :=
  c.isAlphanum = true ∨ c = ':'

instance : DecidablePred IsNameChar := fun c =>
  inferInstanceAs (Decidable (c.isAlphanum = true ∨ c = ':'))

def IsName (cs : List Char) : Prop :=
  cs ≠ [] ∧ ∀ c ∈ cs, IsNameChar c

-- A text that can stand between double quotes.
structure IsValue (cs : List Char) : Prop where
  unquoted : '"' ∉ cs
  resolved : Resolved cs

def attributeText (a : List Char × List Char) : List Char :=
  ' ' :: (a.1 ++ '=' :: '"' :: (a.2 ++ ['"']))

def attributesText (attributes : List (List Char × List Char)) : List Char :=
  attributes.flatMap attributeText

-- Attributes that can be read back.
structure Readable (attributes : List (List Char × List Char)) : Prop where
  keys : ∀ a ∈ attributes, IsName a.1
  values : ∀ a ∈ attributes, IsValue a.2
  distinct : (attributes.map Prod.fst).Nodup

-- The second attribute is the first with the entities of its value replaced.
def ReadsAs (a b : List Char × List Char) : Prop :=
  b.1 = a.1 ∧ unescape a.2 = .ok b.2

section Names

variable {c : Char}

theorem ne_of_isNameChar {d : Char} (h : IsNameChar c) (hd : ¬IsNameChar d) : c ≠ d := by
  rintro rfl
  exact hd h

theorem isSpace_of_isNameChar (h : IsNameChar c) : isSpace c = false := by
  have hne : ∀ d ∈ [' ', '\r', '\n', '\t'], c ≠ d := fun d hd =>
    ne_of_isNameChar h (by revert d; decide)
  simp only [List.mem_cons, forall_eq_or_imp, List.not_mem_nil, false_implies, implies_true,
    and_true] at hne
  simp [isSpace, hne]

-- A character of a name stays inside the tag.
theorem IsNameChar.tag (h : IsNameChar c) : c ∉ ['>', '"', '\''] := by
  have hne : ∀ d ∈ ['>', '"', '\''], ¬IsNameChar d := by decide
  exact fun hmem => hne c hmem h

end Names

section Reading

variable {key value acc rest : List Char} {seen : List (List Char × Nat)}
  {attributes out : List (List Char × List Char)}

-- Positions do not matter to what is read.
theorem attributesFrom_value {unescaped : List Char} (hvalue : '"' ∉ value)
    (hunescaped : unescape (acc.reverse ++ value) = .ok unescaped)
    (hrest : ∀ position, attributesFrom .gap seen position rest = .ok out) (position : Nat) :
    attributesFrom (.value key '"' acc) seen position (value ++ '"' :: rest) =
      .ok ((key, unescaped) :: out) := by
  induction value generalizing acc position with
  | nil =>
      rw [List.append_nil] at hunescaped
      rw [List.nil_append, attributesFrom, if_pos rfl, hunescaped, Result.ok_bind, hrest,
        Result.ok_bind]
      rfl
  | cons c value ih =>
      rw [List.mem_cons, not_or] at hvalue
      rw [List.cons_append, attributesFrom, if_neg (Ne.symm hvalue.1)]
      exact ih hvalue.2 (by simpa using hunescaped) _

theorem attributesFrom_key {start : Nat} (hkey : ∀ c ∈ key, IsNameChar c)
    (hnew : acc.reverse ++ key ∉ seen.map Prod.fst)
    (hrest : ∀ position, attributesFrom (.beforeValue (acc.reverse ++ key))
      ((acc.reverse ++ key, start) :: seen) position rest = .ok out) (position : Nat) :
    attributesFrom (.key start acc) seen position (key ++ '=' :: rest) = .ok out := by
  induction key generalizing acc position with
  | nil =>
      rw [List.append_nil] at hrest hnew
      have hlookup : seen.lookup acc.reverse = none := by
        refine List.lookup_eq_none_iff.mpr fun entry hentry => ?_
        exact bne_iff_ne.mpr fun hsame => hnew (hsame ▸ List.mem_map_of_mem hentry)
      rw [List.nil_append, attributesFrom, if_pos rfl, addKey, hlookup]
      exact hrest _
  | cons c key ih =>
      obtain ⟨hc, hkey⟩ := List.forall_mem_cons.mp hkey
      rw [List.cons_append, attributesFrom, if_neg (ne_of_isNameChar hc (by decide)),
        isSpace_of_isNameChar hc, if_neg (by decide)]
      exact ih hkey (by simpa using hnew) (by simpa using hrest) _

theorem attributesFrom_attributesText (h : Readable attributes)
    (hout : List.Forall₂ ReadsAs attributes out)
    (hseen : ∀ a ∈ attributes, a.1 ∉ seen.map Prod.fst) (position : Nat) :
    attributesFrom .gap seen position (attributesText attributes) = .ok out := by
  induction hout generalizing seen position with
  | nil => rfl
  | @cons a b attributes out hread _ ih =>
      obtain ⟨hsame, hunescaped⟩ := hread
      obtain ⟨⟨hne, hkey⟩, hkeys⟩ := List.forall_mem_cons.mp h.keys
      obtain ⟨hvalue, hvalues⟩ := List.forall_mem_cons.mp h.values
      obtain ⟨hfirst, hdistinct⟩ := List.nodup_cons.mp h.distinct
      obtain ⟨hnew, hothers⟩ := List.forall_mem_cons.mp hseen
      obtain ⟨c, key, hcons⟩ := List.exists_cons_of_ne_nil hne
      rw [hcons] at hkey hnew hfirst hsame
      obtain ⟨hc, hkey⟩ := List.forall_mem_cons.mp hkey
      have htext : attributesText (a :: attributes) =
          ' ' :: c :: (key ++ '=' :: '"' :: (a.2 ++ '"' :: attributesText attributes)) := by
        simp [attributesText, attributeText, hcons]
      rw [htext, attributesFrom, if_pos (by decide), attributesFrom, isSpace_of_isNameChar hc,
        if_neg (by decide)]
      refine attributesFrom_key hkey (by simpa using hnew) (fun position => ?_) _
      rw [attributesFrom, if_neg (by decide), if_pos (.inl rfl)]
      have hentry : b = (c :: key, b.2) := Prod.ext hsame rfl
      rw [hentry]
      refine attributesFrom_value hvalue.unquoted (by simpa using hunescaped)
        (fun position => ?_) _
      refine ih ⟨hkeys, hvalues, hdistinct⟩ (fun b hb => ?_) _
      rw [List.map_cons, List.mem_cons, not_or]
      refine ⟨fun hsame => hfirst (List.mem_map.mpr ⟨b, hb, ?_⟩), hothers b hb⟩
      simpa using hsame

-- What can be read back is read as something.
theorem Readable.readsAs (h : Readable attributes) :
    ∃ out, List.Forall₂ ReadsAs attributes out := by
  have hvalues := h.values
  clear h
  induction attributes with
  | nil => exact ⟨[], .nil⟩
  | cons a attributes ih =>
      obtain ⟨hvalue, hvalues⟩ := List.forall_mem_cons.mp hvalues
      obtain ⟨unescaped, hunescaped⟩ := hvalue.resolved.unescape
      obtain ⟨out, hout⟩ := ih hvalues
      exact ⟨(a.1, unescaped) :: out, .cons ⟨rfl, hunescaped⟩ hout⟩

theorem rawName_append {name : List Char} (hname : ∀ c ∈ name, IsNameChar c) :
    rawName (name ++ attributesText attributes) = name := by
  have hkept : ∀ c ∈ name, (!isSpace c) = true := fun c hc => by
    rw [isSpace_of_isNameChar (hname c hc)]
    rfl
  have hends : (attributesText attributes).takeWhile (!isSpace ·) = [] := by
    cases attributes with
    | nil => rfl
    | cons a attributes => simp [attributesText, attributeText, isSpace]
  rw [rawName, List.takeWhile_append_of_pos hkept, hends, List.append_nil]

-- No tag ends with a slash before its end is read.
theorem getLast_append_ne {name : List Char} (hname : IsName name) :
    (name ++ attributesText attributes).getLast? ≠ some '/' := by
  rcases List.eq_nil_or_concat attributes with rfl | ⟨before, last, rfl⟩
  · intro hslash
    rw [attributesText, List.flatMap_nil, List.append_nil] at hslash
    exact absurd (hname.2 '/' (List.mem_of_getLast? hslash)) (by decide)
  · -- The last character is the quote behind the last value.
    have htext : attributesText (before ++ [last]) =
        attributesText before ++ ' ' :: (last.1 ++ '=' :: '"' :: last.2) ++ ['"'] := by
      simp [attributesText, attributeText]
    rw [List.concat_eq_append, htext, ← List.append_assoc, List.getLast?_concat]
    decide

theorem elementOf_append {name : List Char} (hname : ∀ c ∈ name, IsNameChar c)
    (h : Readable attributes) (hout : List.Forall₂ ReadsAs attributes out) :
    elementOf (name ++ attributesText attributes) = .ok
      { name := String.ofList (localName name)
        attributes := out.map fun a =>
          (String.ofList (localName a.1), String.ofList a.2) } := by
  have hpairs : attributesFrom .gap [] (byteLength name) (attributesText attributes) = .ok out :=
    attributesFrom_attributesText h hout (by simp) _
  simp [elementOf, Markup.attributes, rawName_append hname, hpairs]

theorem elementOf_eq_ok {name : List Char} (hname : ∀ c ∈ name, IsNameChar c)
    (h : Readable attributes) :
    ∃ e, elementOf (name ++ attributesText attributes) = .ok e := by
  obtain ⟨out, hout⟩ := h.readsAs
  exact ⟨_, elementOf_append hname h hout⟩

end Reading

end Datacube.Markup
