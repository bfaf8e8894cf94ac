import Datacube.Crs
import Datacube.Markup.Attribute
import Datacube.Proofs.Outcome
import Datacube.Proofs.Text.Characters

-- Texts whose entities stand for characters, and what escaping makes of a text.
namespace Datacube.Markup

open Text (All)

-- The names of entities, without numbers.
def entityNames : List (List Char) :=
  [['l', 't'], ['g', 't'], ['a', 'm', 'p'], ['a', 'p', 'o', 's'], ['q', 'u', 'o', 't']]

-- Every ampersand of the text begins an entity.
inductive Resolved : List Char → Prop
  | nil : Resolved []
  | char {c : Char} {cs : List Char} (hc : c ≠ '&') (hcs : Resolved cs) : Resolved (c :: cs)
  | entity {name cs : List Char} (hname : name ∈ entityNames) (hcs : Resolved cs) :
      Resolved ('&' :: (name ++ ';' :: cs))

section Resolved

variable {cs ds name : List Char}

theorem resolved_of_not_mem (h : '&' ∉ cs) : Resolved cs := by
  induction cs with
  | nil => exact .nil
  | cons c cs ih =>
      rw [List.mem_cons, not_or] at h
      exact .char (Ne.symm h.1) (ih h.2)

theorem Resolved.append (hcs : Resolved cs) (hds : Resolved ds) : Resolved (cs ++ ds) := by
  induction hcs with
  | nil => exact hds
  | char hc _ ih => exact .char hc ih
  | entity hname _ ih => simpa using Resolved.entity hname ih

theorem resolveEntity_of_mem (hname : name ∈ entityNames) (first last : Nat) :
    ∃ c, resolveEntity first last name = .ok c := by
  simp only [entityNames, List.mem_cons, List.not_mem_nil, or_false] at hname
  rcases hname with rfl | rfl | rfl | rfl | rfl
  all_goals exact ⟨_, rfl⟩

-- A name is read up to its semicolon.
theorem unescapeFrom_name {length first : Nat} {acc : List Char} (hamp : '&' ∉ name)
    (hend : ';' ∉ name) (position : Nat) :
    ∃ last, unescapeFrom length position (some (first, acc)) (name ++ ';' :: cs) = (do
      let resolved ← resolveEntity first last (acc.reverse ++ name)
      let rest ← unescapeFrom length (last + 1) none cs
      return resolved :: rest) := by
  induction name generalizing acc position with
  | nil => exact ⟨position, by simp [unescapeFrom]⟩
  | cons c name ih =>
      rw [List.mem_cons, not_or] at hamp hend
      obtain ⟨last, hlast⟩ := @ih (c :: acc) hamp.2 hend.2 (position + c.utf8Size)
      refine ⟨last, ?_⟩
      rw [List.cons_append, unescapeFrom, if_neg (Ne.symm hamp.1), if_neg (Ne.symm hend.1), hlast]
      simp

theorem Resolved.unescape (h : Resolved cs) : ∃ out, unescape cs = .ok out := by
  have hfrom : ∀ length position, ∃ out, unescapeFrom length position none cs = .ok out := by
    intro length
    induction h with
    | nil => exact fun _ => ⟨[], rfl⟩
    | @char c cs hc _ ih =>
        intro position
        obtain ⟨out, hout⟩ := ih (position + c.utf8Size)
        exact ⟨c :: out, by simp [unescapeFrom, hc, hout]⟩
    | @entity name cs hname _ ih =>
        intro position
        have hplain : '&' ∉ name ∧ ';' ∉ name := by
          revert name
          decide
        obtain ⟨last, hlast⟩ := @unescapeFrom_name cs name length position [] hplain.1 hplain.2
          (position + 1)
        obtain ⟨resolved, hresolved⟩ := resolveEntity_of_mem hname position last
        obtain ⟨out, hout⟩ := ih (last + 1)
        refine ⟨resolved :: out, ?_⟩
        rw [unescapeFrom, if_pos rfl, hlast, List.reverse_nil, List.nil_append, hresolved,
          Result.ok_bind, hout, Result.ok_bind]
        rfl
  exact hfrom _ _

-- A text without ampersands stands for itself.
theorem unescape_of_not_mem (h : '&' ∉ cs) : unescape cs = .ok cs := by
  have hfrom : ∀ length position, unescapeFrom length position none cs = .ok cs := by
    intro length
    induction cs with
    | nil => exact fun _ => rfl
    | cons c cs ih =>
        intro position
        rw [List.mem_cons, not_or] at h
        rw [unescapeFrom, if_neg (Ne.symm h.1), ih h.2, Result.ok_bind]
        rfl
  exact hfrom _ _

end Resolved

section Stripped

variable {cs ds : List Char}

theorem Resolved.dropWhile_space (h : Resolved cs) : Resolved (cs.dropWhile isSpace) := by
  induction h with
  | nil => exact .nil
  | @char c cs hc hcs ih =>
      rw [List.dropWhile_cons]
      split
      · exact ih
      · exact .char hc hcs
  | entity hname hcs _ => exact .entity hname hcs

-- Blanks at the end are not part of an entity.
theorem Resolved.of_append_space (h : Resolved (cs ++ ds)) (hds : ∀ c ∈ ds, isSpace c = true) :
    Resolved cs := by
  generalize htext : cs ++ ds = text at h
  induction h generalizing cs with
  | nil => exact (List.append_eq_nil_iff.mp htext).1 ▸ .nil
  | @char c text hc _ ih =>
      cases cs with
      | nil => exact .nil
      | cons d cs =>
          obtain ⟨rfl, hrest⟩ := List.cons.inj htext
          exact .char hc (ih hrest)
  | @entity name text hname _ ih =>
      have hend : ';' ∉ ds := fun h => absurd (hds _ h) (by decide)
      cases cs with
      | nil => exact .nil
      | cons d cs =>
          obtain ⟨rfl, hrest⟩ := List.cons.inj htext
          rcases List.append_eq_append_iff.mp hrest with ⟨more, -, rfl⟩ | ⟨more, rfl, hmore⟩
          · simp at hend
          · cases more with
            | nil =>
                obtain rfl : ';' :: text = ds := hmore
                simp at hend
            | cons e more =>
                obtain ⟨rfl, htail⟩ := List.cons.inj hmore
                exact .entity hname (ih htail.symm)

theorem Resolved.stripEnds (h : Resolved cs) : Resolved (Text.stripEnds isSpace cs) := by
  have hdropped := h.dropWhile_space
  have hsplit : Text.stripEnds isSpace cs ++
      ((cs.dropWhile isSpace).reverse.takeWhile isSpace).reverse = cs.dropWhile isSpace := by
    rw [Text.stripEnds, ← List.reverse_append, List.takeWhile_append_dropWhile,
      List.reverse_reverse]
  refine Resolved.of_append_space (hsplit ▸ hdropped) fun c hc => ?_
  exact List.all_eq_true.mp List.all_takeWhile c (List.mem_reverse.mp hc)

end Stripped

section Escaped

-- Characters become entities, or stay.
theorem resolved_replaceEach {f : Char → List Char}
    (hf : ∀ c, f c = [c] ∧ c ≠ '&' ∨ ∃ name ∈ entityNames, f c = '&' :: (name ++ [';']))
    (s : String) : Resolved (Text.replaceEach f s).toList := by
  rw [Text.replaceEach, String.toList_ofList]
  induction s.toList with
  | nil => exact .nil
  | cons c cs ih =>
      rw [List.flatMap_cons]
      rcases hf c with ⟨hc, hamp⟩ | ⟨name, hname, hc⟩
      · rw [hc]
        exact .char hamp ih
      · rw [hc]
        simpa using Resolved.entity hname ih

theorem resolved_escape (s : String) : Resolved (escape s).toList := by
  refine resolved_replaceEach (fun c => ?_) s
  unfold escapeChar
  split
  case h_6 c _ _ hamp _ _ => exact .inl ⟨rfl, hamp⟩
  all_goals exact .inr (by decide)

theorem resolved_escapeText (s : String) : Resolved (escapeText s).toList := by
  refine resolved_replaceEach (fun c => ?_) s
  unfold escapeTextChar
  split
  case h_4 c _ _ hamp => exact .inl ⟨rfl, hamp⟩
  all_goals exact .inr (by decide)

theorem resolved_escapeCrs (s : String) : Resolved (Crs.escape s).toList := by
  refine resolved_replaceEach (fun c => ?_) s
  split
  · exact .inr (by decide)
  · next hamp => exact .inl ⟨rfl, hamp⟩

end Escaped

end Datacube.Markup
