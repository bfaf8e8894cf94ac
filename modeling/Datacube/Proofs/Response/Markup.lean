import Datacube.Proofs.Markup.Shape
import Datacube.Proofs.Response.Filling

-- Templates as markup with holes, checked piece by piece.
namespace Datacube.Response

open Markup (Fragment IsNameChar Kind Shape Symbol)

def Piece.symbols : Piece → List Symbol
  | literal text => text.toList.map .char
  | hole name => [.hole name]

def symbols (pieces : List Piece) : List Symbol :=
  pieces.flatMap Piece.symbols

-- The shape of the markup behind the pieces of a template.
def shapeAfter (kinds : List (String × Kind)) (σ : Option Shape) (pieces : List Piece) :
    Option Shape :=
  σ.bind fun σ => (symbols pieces).foldlM (Shape.step kinds) σ

-- Whatever is put in, a template is markup with all its elements closed.
def IsMarkup (kinds : List (String × Kind)) (pieces : List Piece) : Prop :=
  shapeAfter kinds (some Shape.start) pieces = some Shape.done

def valueOf (values : List (String × String)) (name : String) : String :=
  (values.lookup name).getD (holeText name)

-- The values of a template fit into its holes.
def Fits (values : List (String × String)) (kinds : List (String × Kind)) : Prop :=
  ∀ entry ∈ kinds, entry.2.Admits (valueOf values entry.1).toList

theorem fits_nil (values : List (String × String)) : Fits values [] := by
  simp [Fits]

theorem fits_cons {values : List (String × String)} {name : String} {kind : Kind}
    {kinds : List (String × Kind)} :
    Fits values ((name, kind) :: kinds) ↔
      kind.Admits (valueOf values name).toList ∧ Fits values kinds :=
  List.forall_mem_cons

theorem valueOf_cons (name other value : String) (values : List (String × String)) :
    valueOf ((other, value) :: values) name =
      if name = other then value else valueOf values name := by
  by_cases hsame : name = other
  · simp [valueOf, hsame]
  · rw [valueOf, List.lookup_cons, beq_false_of_ne hsame, if_neg hsame]
    rfl

section Shapes

variable {kinds : List (String × Kind)} {σ : Option Shape} {pieces : List Piece}

theorem shapeAfter_nil : shapeAfter kinds σ [] = σ := by
  cases σ <;> rfl

-- Literals are taken as lists of characters, which are cheap to go through.
theorem shapeAfter_literal {cs : List Char} :
    shapeAfter kinds σ (.literal (String.ofList cs) :: pieces) =
      shapeAfter kinds (σ.bind (cs.foldlM Shape.stepChar)) pieces := by
  have hsymbols : symbols (.literal (String.ofList cs) :: pieces) =
      cs.map .char ++ symbols pieces := by
    simp [symbols, Piece.symbols]
  cases σ with
  | none => rfl
  | some σ =>
      rw [shapeAfter, Option.bind_some, hsymbols, List.foldlM_append, List.foldlM_map]
      rfl

theorem shapeAfter_hole {name : String} :
    shapeAfter kinds σ (.hole name :: pieces) =
      shapeAfter kinds (σ.bind (Shape.stepHole kinds · name)) pieces := by
  cases σ <;> rfl

end Shapes

section Filled

variable {values : List (String × String)} {kinds : List (String × Kind)} {pieces : List Piece}

theorem toList_fill : (fill values pieces).toList =
    Markup.textOf (fun name => (valueOf values name).toList) (symbols pieces) := by
  rw [fill, String.toList_join, symbols, Markup.textOf, List.flatMap_assoc, List.flatMap_map]
  refine List.flatMap_congr fun p _ => ?_
  cases p with
  | literal text =>
      rw [Piece.filled, Piece.symbols, List.flatMap_map]
      exact (List.flatMap_singleton' _).symm
  | hole name => simp [Piece.filled, Piece.symbols, Symbol.text, valueOf]

theorem fragment_fill (hfits : Fits values kinds) (hmarkup : IsMarkup kinds pieces) :
    Fragment (fill values pieces).toList := by
  rw [toList_fill]
  exact Markup.fragment_of_run hfits hmarkup

theorem parse_fill {text : String} (hfits : Fits values kinds)
    (hmarkup : IsMarkup kinds (.literal text :: pieces)) (hfirst : text.toList.head? = some '<') :
    ∃ root, Markup.Element.parse (fill values (.literal text :: pieces)) = .ok root := by
  obtain ⟨cs, hcs⟩ : ∃ cs, text.toList = '<' :: cs := by
    cases hlist : text.toList with
    | nil => simp [hlist] at hfirst
    | cons c cs => exact ⟨cs, by simpa [hlist] using hfirst⟩
  have hhead : (symbols (.literal text :: pieces)).head? = some (.char '<') := by
    simp [symbols, Piece.symbols, hcs]
  obtain ⟨root, hroot⟩ := @Markup.parse_of_run (fun name => (valueOf values name).toList) kinds
    (symbols (.literal text :: pieces)) hfits hhead hmarkup
  rw [← toList_fill, String.ofList_toList] at hroot
  exact ⟨root, hroot⟩

end Filled

section Parts

variable {s : String} {texts : List String}

theorem fragment_join (h : ∀ t ∈ texts, Fragment t.toList) :
    Fragment (String.join texts).toList := by
  rw [String.toList_join]
  induction texts with
  | nil => exact Markup.fragment_nil
  | cons t texts ih =>
      obtain ⟨ht, htexts⟩ := List.forall_mem_cons.mp h
      exact ht.append (ih htexts)

theorem fragment_lines (h : ∀ t ∈ texts, Fragment t.toList) :
    Fragment ("\n".intercalate texts).toList := by
  induction texts with
  | nil => exact Markup.fragment_nil
  | cons t texts ih =>
      obtain ⟨ht, htexts⟩ := List.forall_mem_cons.mp h
      cases texts with
      | nil => simpa using ht
      | cons u texts =>
          have hbreak : Fragment "\n".toList :=
            Markup.fragment_text (Markup.resolved_of_not_mem (by decide)) (by decide)
          rw [String.intercalate_cons_cons, String.toList_append, String.toList_append]
          exact (ht.append hbreak).append (ih htexts)

-- A start and an end tag for what stands between them.
def Encloses (before after : List Char) : Prop :=
  (((before.foldlM Shape.stepChar Shape.start).bind
    (Shape.stepHole [("body", .fragment)] · "body")).bind
      (after.foldlM Shape.stepChar)) = some Shape.done

instance (before after : List Char) : Decidable (Encloses before after) :=
  inferInstanceAs (Decidable (_ = some Shape.done))

theorem fragment_enclosed {before after : List Char} (hs : Fragment s.toList)
    (h : Encloses before after) :
    Fragment (String.ofList before ++ s ++ String.ofList after).toList := by
  have hfits : Fits [("body", s)] [("body", .fragment)] := by
    simpa [Fits, valueOf_cons, Kind.Admits] using hs
  have hmarkup : IsMarkup [("body", .fragment)]
      [.literal (String.ofList before), .hole "body", .literal (String.ofList after)] := by
    rw [IsMarkup, shapeAfter_literal, shapeAfter_hole, shapeAfter_literal, shapeAfter_nil]
    exact h
  have hfill : fill [("body", s)]
      [.literal (String.ofList before), .hole "body", .literal (String.ofList after)] =
        String.ofList before ++ s ++ String.ofList after := by
    simp [fill, Piece.filled, String.append_assoc]
  exact hfill ▸ fragment_fill hfits hmarkup

end Parts

end Datacube.Response
