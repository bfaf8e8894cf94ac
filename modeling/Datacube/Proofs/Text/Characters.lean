import Datacube.Text.Blank
import Datacube.Text.Pieces
import Mathlib.Data.List.Basic

-- Which characters a text is made of, and how texts are found again in what joins them.
namespace Datacube.Text

-- Every character of the text has the property.
def All (p : Char → Prop) (s : String) : Prop :=
  ∀ c ∈ s.toList, p c

section All

variable {p q : Char → Prop} {s t : String}

-- Only the characters of the list are looked at, not all there are.
instance (priority := high) decidableForallMem [DecidablePred p] (cs : List Char) :
    Decidable (∀ c ∈ cs, p c) :=
  List.decidableBAll p cs

instance [DecidablePred p] : Decidable (All p s) :=
  inferInstanceAs (Decidable (∀ c ∈ s.toList, p c))

theorem All.mono (h : All p s) (hpq : ∀ c, p c → q c) : All q s :=
  fun c hc => hpq c (h c hc)

theorem All.not_mem (h : All p s) {c : Char} (hc : ¬p c) : c ∉ s.toList :=
  fun hmem => hc (h c hmem)

@[simp] theorem all_append : All p (s ++ t) ↔ All p s ∧ All p t := by
  simp [All, or_imp, forall_and]

@[simp] theorem all_ofList {cs : List Char} : All p (String.ofList cs) ↔ ∀ c ∈ cs, p c := by
  simp [All]

theorem all_join {texts : List String} : All p (String.join texts) ↔ ∀ t ∈ texts, All p t := by
  simp only [All, String.toList_join, List.mem_flatMap]
  grind

theorem all_replaceEach {f : Char → List Char} :
    All p (replaceEach f s) ↔ ∀ c ∈ s.toList, ∀ d ∈ f c, p d := by
  simp only [replaceEach, all_ofList, List.mem_flatMap]
  grind

theorem all_intercalate {sep : String} {texts : List String} (hsep : All p sep)
    (htexts : ∀ t ∈ texts, All p t) : All p (sep.intercalate texts) := by
  induction texts with
  | nil => simp [All]
  | cons t texts ih =>
      obtain ⟨ht, htexts⟩ := List.forall_mem_cons.mp htexts
      cases texts with
      | nil => simpa using ht
      | cons u texts =>
          rw [String.intercalate_cons_cons, all_append, all_append]
          exact ⟨⟨ht, hsep⟩, ih htexts⟩

end All

section Words

-- A word: not empty, and without blanks.
def IsWord (cs : List Char) : Prop :=
  cs ≠ [] ∧ ∀ c ∈ cs, isBlank c = false

theorem wordsOf_nil : wordsOf [] = [] := by
  rw [wordsOf]
  simp

-- A word ends at the first blank behind it, or with the text.
theorem wordsOf_append {word rest : List Char} (hword : IsWord word)
    (hrest : rest = [] ∨ ∃ more, rest = ' ' :: more) :
    wordsOf (word ++ rest) = word :: wordsOf rest := by
  obtain ⟨hne, hblank⟩ := hword
  obtain ⟨c, cs, rfl⟩ := List.exists_cons_of_ne_nil hne
  obtain ⟨hc, hcs⟩ := List.forall_mem_cons.mp hblank
  have hstart : (c :: cs ++ rest).dropWhile isBlank = c :: (cs ++ rest) := by simp [hc]
  have hends : rest.takeWhile (!isBlank ·) = [] ∧ rest.dropWhile (!isBlank ·) = rest := by
    have hspace : isBlank ' ' = true := by decide
    rcases hrest with rfl | ⟨more, rfl⟩ <;> simp [hspace]
  have hkept : ∀ d ∈ cs, (!isBlank d) = true := by simpa using hcs
  rw [wordsOf]
  split
  · next h => exact absurd (hstart.symm.trans h) (List.cons_ne_nil _ _)
  · next d tail h =>
    obtain ⟨rfl, rfl⟩ := List.cons.inj (hstart.symm.trans h)
    rw [List.takeWhile_append_of_pos hkept, List.dropWhile_append_of_pos hkept, hends.1, hends.2,
      List.append_nil]

theorem wordsOf_space (cs : List Char) : wordsOf (' ' :: cs) = wordsOf cs := by
  have hspace : isBlank ' ' = true := by decide
  rw [wordsOf, wordsOf, List.dropWhile_cons_of_pos hspace]

-- The words of a line of words are these words.
theorem words_intercalate {texts : List String} (h : ∀ t ∈ texts, IsWord t.toList) :
    words (" ".intercalate texts) = texts := by
  have hwords : wordsOf (" ".intercalate texts).toList = texts.map String.toList := by
    induction texts with
    | nil => simpa using wordsOf_nil
    | cons t texts ih =>
        obtain ⟨ht, htexts⟩ := List.forall_mem_cons.mp h
        cases texts with
        | nil => simpa [wordsOf_nil] using wordsOf_append ht (.inl rfl)
        | cons u texts =>
            have hline : (" ".intercalate (t :: u :: texts)).toList =
                t.toList ++ ' ' :: (" ".intercalate (u :: texts)).toList := by
              simp [String.intercalate_cons_cons]
            rw [hline, wordsOf_append ht (.inr ⟨_, rfl⟩), wordsOf_space, ih htexts]
            rfl
  rw [words, hwords, List.map_map]
  simp [Function.comp_def]

end Words

end Datacube.Text
