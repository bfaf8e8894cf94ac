import Datacube.Environment.Expansion
import Datacube.Proofs.Outcome
import Datacube.Proofs.Text.Pieces

-- References to variables in a text are resolved one by one, and the text around them stays. What
-- comes in for a reference is not looked at again.
namespace Datacube.Environment

open Result
open Text (Unmarked)

-- The start of a reference.
def opening : List Char := ['$', '\x7b']

-- What stands between a name and its default.
def defaultMark : List Char := [':', '-']

-- A text is made of literals and of references, of which the part between the braces is given.
inductive Piece where
  | literal (cs : List Char)
  | reference (e : List Char)
deriving DecidableEq

def Piece.text : Piece → List Char
  | literal cs => cs
  | reference e => opening ++ (e ++ ['\x7d'])

def textOf (ps : List Piece) : List Char :=
  ps.flatMap Piece.text

-- No reference begins in a literal, whatever follows it, and each ends at its first closing brace.
-- Between its braces the start of a reference may stand again.
def Separated : List Piece → Prop
  | [] => True
  | .literal cs :: ps => Unmarked opening cs (textOf ps) ∧ Separated ps
  | .reference e :: ps => '\x7d' ∉ e ∧ Separated ps

instance decidableSeparated : (ps : List Piece) → Decidable (Separated ps)
  | [] => .isTrue trivial
  | .literal cs :: ps =>
    have := decidableSeparated ps
    inferInstanceAs (Decidable (Unmarked opening cs (textOf ps) ∧ Separated ps))
  | .reference e :: ps =>
    have := decidableSeparated ps
    inferInstanceAs (Decidable ('\x7d' ∉ e ∧ Separated ps))

-- What a reference stands for. Its default follows the first mark in it.
inductive Resolves (env : Environment) : List Char → List Char → Prop where
  | plain {name : List Char} {value : String} (hname : ¬defaultMark <:+: name)
      (hvalue : env.value? (Text.trim (String.ofList name)) = some value) :
      Resolves env name value.toList
  | set {name default : List Char} {value : String} (hname : ¬defaultMark <:+: name)
      (hvalue : env.value? (Text.trim (String.ofList name)) = some value) (hne : value ≠ "") :
      Resolves env (name ++ (defaultMark ++ default)) value.toList
  | default {name default : List Char} (hname : ¬defaultMark <:+: name)
      (hvalue : ∀ value, env.value? (Text.trim (String.ofList name)) = some value → value = "") :
      Resolves env (name ++ (defaultMark ++ default)) default

-- A reference without a default to a variable that is not set.
def Unset (env : Environment) (e : List Char) : Prop :=
  ¬defaultMark <:+: e ∧ env.value? (Text.trim (String.ofList e)) = none

inductive Piece.Becomes (env : Environment) : Piece → List Char → Prop where
  | literal (cs : List Char) : Becomes env (.literal cs) cs
  | reference {e value : List Char} (h : Resolves env e value) : Becomes env (.reference e) value

-- The same by the resolver: what a piece becomes, or why it cannot.
def Piece.resolved (env : Environment) : Piece → Except ExpansionError (List Char)
  | literal cs => .ok cs
  | reference e => resolve env e

variable {env : Environment} {e cs before after rest value out : List Char} {ps : List Piece}

section Resolve

theorem resolve_eq (env : Environment) (e : List Char) :
    resolve env e =
      match Text.cutMark defaultMark e with
      | some (name, default) =>
        match (env.value? (Text.trim (String.ofList name))).filter (· ≠ "") with
        | some value => .ok value.toList
        | none => .ok default
      | none =>
        match env.value? (Text.trim (String.ofList e)) with
        | some value => .ok value.toList
        | none => .error (.unset (String.ofList e)) := rfl

theorem resolve_plain (h : ¬defaultMark <:+: e) :
    resolve env e =
      match env.value? (Text.trim (String.ofList e)) with
      | some value => .ok value.toList
      | none => .error (.unset (String.ofList e)) := by
  rw [resolve_eq, Text.cutMark_eq_none_iff.mpr h]

theorem resolve_default {name default : List Char} (h : ¬defaultMark <:+: name) :
    resolve env (name ++ (defaultMark ++ default)) =
      match (env.value? (Text.trim (String.ofList name))).filter (· ≠ "") with
      | some value => .ok value.toList
      | none => .ok default := by
  have hcut : Text.cutMark defaultMark (name ++ (defaultMark ++ default)) = some (name, default) :=
    (Text.cutMark_eq_some_iff (by decide)).mpr ⟨rfl, h⟩
  rw [resolve_eq, hcut]

-- A reference has no default, or its first mark cuts it in two.
theorem plain_or_default (e : List Char) : ¬defaultMark <:+: e ∨
    ∃ name default, e = name ++ (defaultMark ++ default) ∧ ¬defaultMark <:+: name := by
  cases hcut : Text.cutMark defaultMark e with
  | none => exact .inl (Text.cutMark_eq_none_iff.mp hcut)
  | some parts => exact .inr ⟨_, _, (Text.cutMark_eq_some_iff (by decide)).mp hcut⟩

theorem resolve_of_resolves (h : Resolves env e value) : resolve env e = .ok value := by
  cases h with
  | plain hname hvalue => rw [resolve_plain hname, hvalue]
  | @set name default value hname hvalue hne =>
      have hset : (env.value? (Text.trim (String.ofList name))).filter (· ≠ "") = some value := by
        simp [hvalue, hne]
      rw [resolve_default hname, hset]
  | @default name default hname hvalue =>
      have hunset : (env.value? (Text.trim (String.ofList name))).filter (· ≠ "") = none := by
        simpa using hvalue
      rw [resolve_default hname, hunset]

theorem resolve_of_unset (h : Unset env e) :
    resolve env e = .error (.unset (String.ofList e)) := by
  rw [resolve_plain h.1, h.2]

theorem resolves_or_unset (env : Environment) (e : List Char) :
    (∃ value, Resolves env e value) ∨ Unset env e := by
  rcases plain_or_default e with hplain | ⟨name, default, rfl, hname⟩
  · cases hvalue : env.value? (Text.trim (String.ofList e)) with
    | none => exact .inr ⟨hplain, hvalue⟩
    | some value => exact .inl ⟨_, .plain hplain hvalue⟩
  · by_cases hvalue : ∃ value, env.value? (Text.trim (String.ofList name)) = some value ∧ value ≠ ""
    · obtain ⟨value, hvalue, hne⟩ := hvalue
      exact .inl ⟨_, .set hname hvalue hne⟩
    · refine .inl ⟨_, .default hname fun value hsome => ?_⟩
      by_contra hne
      exact hvalue ⟨value, hsome, hne⟩

theorem resolve_eq_ok_iff : resolve env e = .ok value ↔ Resolves env e value := by
  refine ⟨fun h => ?_, resolve_of_resolves⟩
  rcases resolves_or_unset env e with ⟨other, hother⟩ | hunset
  · obtain rfl := Except.ok.inj ((resolve_of_resolves hother).symm.trans h)
    exact hother
  · cases (resolve_of_unset hunset).symm.trans h

theorem not_exists_resolves_iff : (¬∃ value, Resolves env e value) ↔ Unset env e := by
  refine ⟨(resolves_or_unset env e).resolve_left, ?_⟩
  rintro hunset ⟨value, hvalue⟩
  cases (resolve_of_unset hunset).symm.trans (resolve_of_resolves hvalue)

end Resolve

section Expand

theorem expandChars_eq (env : Environment) (cs : List Char) :
    expandChars env cs =
      match Text.cutMark opening cs with
      | none => .ok cs
      | some (before, rest) =>
        match Text.cut '\x7d' rest with
        | none => .error (.unclosed (String.ofList rest))
        | some (reference, after) => do
          let value ← resolve env reference
          let expanded ← expandChars env after
          return before ++ value ++ expanded := by
  rw [expandChars]
  split
  · next hcut => rw [opening, hcut]
  · next before rest hcut =>
    simp only [opening, hcut]
    split
    · next hend => rw [hend]
    · next hend => rw [hend]

theorem expandChars_nil : expandChars env [] = .ok [] := by
  rw [expandChars_eq]
  rfl

-- A character at which no reference begins stays.
theorem expandChars_cons {c : Char} (h : ¬opening <+: c :: cs) :
    expandChars env (c :: cs) = (c :: ·) <$> expandChars env cs := by
  rw [expandChars_eq env (c :: cs), expandChars_eq env cs, Text.cutMark_cons h]
  cases Text.cutMark opening cs with
  | none => rfl
  | some parts =>
      cases hend : Text.cut '\x7d' parts.2 with
      | none => simp [hend]
      | some parts => simp [hend]

theorem expandChars_literal (h : Unmarked opening cs rest) :
    expandChars env (cs ++ rest) = (cs ++ ·) <$> expandChars env rest := by
  induction cs with
  | nil => simp
  | cons c cs ih =>
      obtain ⟨hstart, hcs⟩ := Text.unmarked_cons.mp h
      rw [List.cons_append, expandChars_cons hstart, ih hcs]
      simp

theorem expandChars_reference (h : '\x7d' ∉ e) :
    expandChars env (opening ++ (e ++ '\x7d' :: rest)) = do
      let value ← resolve env e
      let out ← expandChars env rest
      return value ++ out := by
  rw [expandChars_eq, Text.cutMark_mark]
  simp only [Text.cut_append h, List.nil_append]

theorem expandChars_unclosed (h : '\x7d' ∉ rest) :
    expandChars env (opening ++ rest) = .error (.unclosed (String.ofList rest)) := by
  rw [expandChars_eq, Text.cutMark_mark]
  simp only [Text.cut_of_not_mem h]

theorem Piece.resolved_eq_ok_iff {p : Piece} :
    p.resolved env = .ok value ↔ p.Becomes env value := by
  cases p with
  | literal cs =>
      constructor
      · rintro ⟨⟩
        exact .literal _
      · rintro ⟨⟩
        rfl
  | reference e =>
      refine resolve_eq_ok_iff.trans ⟨.reference, fun h => ?_⟩
      cases h with
      | reference h => exact h

theorem Piece.not_exists_becomes_iff {p : Piece} :
    (¬∃ value, p.Becomes env value) ↔ ∃ e, p = .reference e ∧ Unset env e := by
  simp only [← resolved_eq_ok_iff]
  cases p with
  | literal cs => simp [resolved]
  | reference e => simp [resolved, resolve_eq_ok_iff, ← not_exists_resolves_iff]

theorem expandChars_textOf (h : Separated ps) :
    expandChars env (textOf ps) = List.flatten <$> ps.mapM (Piece.resolved env) := by
  induction ps with
  | nil => exact expandChars_nil
  | cons p ps ih =>
      cases p with
      | literal cs =>
          obtain ⟨hcs, hps⟩ := h
          have htext : textOf (.literal cs :: ps) = cs ++ textOf ps := rfl
          rw [htext, expandChars_literal hcs, ih hps]
          simp [Piece.resolved]
      | reference e =>
          obtain ⟨he, hps⟩ := h
          have htext : textOf (.reference e :: ps) = opening ++ (e ++ '\x7d' :: textOf ps) := by
            simp [textOf, Piece.text]
          rw [htext, expandChars_reference he, ih hps]
          simp [Piece.resolved]

theorem expand_eq_ok_iff (h : Separated ps) {out : String} :
    env.expand (String.ofList (textOf ps)) = .ok out ↔
      ∃ values, List.Forall₂ (Piece.Becomes env) ps values ∧
        out = String.ofList values.flatten := by
  simp only [expand, String.toList_ofList, expandChars_textOf h, bind_eq_ok, map_eq_ok, pure_eq_ok,
    mapM_eq_ok_iff, Piece.resolved_eq_ok_iff]
  constructor
  · rintro ⟨_, ⟨values, hvalues, rfl⟩, rfl⟩
    exact ⟨values, hvalues, rfl⟩
  · rintro ⟨values, hvalues, rfl⟩
    exact ⟨_, ⟨values, hvalues, rfl⟩, rfl⟩

theorem exists_expand_eq_error_iff (h : Separated ps) :
    (∃ err, env.expand (String.ofList (textOf ps)) = .error err) ↔
      ∃ e, .reference e ∈ ps ∧ Unset env e := by
  have hfails : (∃ err, env.expand (String.ofList (textOf ps)) = .error err) ↔
      ¬∃ out, env.expand (String.ofList (textOf ps)) = .ok out := by
    cases env.expand (String.ofList (textOf ps)) <;> simp
  have hworks : (∃ out, env.expand (String.ofList (textOf ps)) = .ok out) ↔
      ∀ p ∈ ps, ∃ value, p.Becomes env value := by
    simp only [expand_eq_ok_iff h, ← exists_forall₂_iff]
    exact ⟨fun ⟨_, values, hvalues, _⟩ => ⟨values, hvalues⟩,
      fun ⟨values, hvalues⟩ => ⟨_, values, hvalues, rfl⟩⟩
  rw [hfails, hworks]
  push Not
  simp only [← not_exists, Piece.not_exists_becomes_iff]
  constructor
  · rintro ⟨_, hmem, e, rfl, hunset⟩
    exact ⟨e, hmem, hunset⟩
  · rintro ⟨e, hmem, hunset⟩
    exact ⟨_, hmem, e, rfl, hunset⟩

-- A reference in front of one that does not end has its end before it, or does not end either.
theorem exists_error_of_opening (h : '\x7d' ∉ rest)
    (hmore : ∀ more : List Char, more.length < cs.length →
      ∃ err, expandChars env (more ++ (opening ++ rest)) = .error err) :
    ∃ err, expandChars env (opening ++ (cs ++ (opening ++ rest))) = .error err := by
  by_cases hend : '\x7d' ∈ cs
  · obtain ⟨e, more, rfl, he⟩ := List.eq_append_cons_of_mem hend
    obtain ⟨err, herr⟩ := hmore more (by simp only [List.length_append, List.length_cons]; omega)
    rw [List.append_assoc, List.cons_append, expandChars_reference he, herr]
    cases resolve env e <;> exact ⟨_, rfl⟩
  · have hopen : '\x7d' ∉ cs ++ (opening ++ rest) := by
      simp [opening, hend, h]
    exact ⟨_, expandChars_unclosed hopen⟩

-- A text in which a reference begins that does not end is refused, whatever stands in front of it.
theorem exists_expandChars_eq_error (env : Environment) (h : '\x7d' ∉ rest) (before : List Char) :
    ∃ err, expandChars env (before ++ (opening ++ rest)) = .error err := by
  induction hlength : before.length using Nat.strong_induction_on generalizing before with
  | _ n ih =>
      subst hlength
      cases before with
      | nil => exact ⟨_, expandChars_unclosed h⟩
      | cons c cs =>
          by_cases hstart : opening <+: c :: cs
          · obtain ⟨cs, hcs⟩ := hstart
            rw [← hcs] at ih ⊢
            rw [List.append_assoc]
            refine exists_error_of_opening h fun more hless => ih _ ?_ more rfl
            rw [List.length_append]
            omega
          · have hplain : ¬opening <+: c :: (cs ++ (opening ++ rest)) := fun hprefix => by
              obtain ⟨rfl, hbrace⟩ := List.cons_prefix_cons.mp hprefix
              have hkept : ['\x7b'] <+: cs := Text.prefix_of_prefix_append (by decide) hbrace
              exact hstart (List.cons_prefix_cons.mpr ⟨rfl, hkept⟩)
            obtain ⟨err, herr⟩ := ih cs.length (by simp) cs rfl
            exact ⟨err, by rw [List.cons_append, expandChars_cons hplain, herr]; rfl⟩

end Expand

-- References are expanded once and from left to right: a text becomes what its pieces become, and
-- is refused just if one of them refers to a variable that is not set, or does not end.
theorem expand_pieces (env : Environment) (ps : List Piece) (h : Separated ps) :
    (∀ out, env.expand (String.ofList (textOf ps)) = .ok out ↔
      ∃ values, List.Forall₂ (Piece.Becomes env) ps values ∧
        out = String.ofList values.flatten) ∧
    ((∃ err, env.expand (String.ofList (textOf ps)) = .error err) ↔
      ∃ e, .reference e ∈ ps ∧ Unset env e) ∧
    ∀ before rest, '\x7d' ∉ rest →
      ∃ err, env.expand (String.ofList (before ++ (opening ++ rest))) = .error err := by
  refine ⟨fun _ => expand_eq_ok_iff h, exists_expand_eq_error_iff h, fun before rest hrest => ?_⟩
  obtain ⟨err, herr⟩ := exists_expandChars_eq_error env hrest before
  exact ⟨err, by rw [expand, String.toList_ofList, herr]; rfl⟩

-- A value with a reference in it, and a default with marks and the start of one.
theorem expand_pieces_nested :
    ∃ (env : Environment) (ps : List Piece), Separated ps ∧
      textOf ps = "a$$\x7b HOME \x7d$\x7bEMPTY:-x:-$\x7bB\x7d\x7d".toList ∧
      env.expand (String.ofList (textOf ps)) = .ok "a$$\x7bHOME\x7dx:-$\x7bB\x7d" := by
  let env : Environment := ⟨[("HOME", "$\x7bHOME\x7d"), ("EMPTY", "")]⟩
  let ps : List Piece :=
    [.literal "a$".toList, .reference " HOME ".toList, .reference "EMPTY:-x:-$\x7bB".toList,
      .literal "\x7d".toList]
  have hseparated : Separated ps := by decide +kernel
  have hhome : Resolves env " HOME ".toList "$\x7bHOME\x7d".toList :=
    .plain (by decide +kernel) (by decide +kernel)
  have hempty : Resolves env ("EMPTY".toList ++ (defaultMark ++ "x:-$\x7bB".toList))
      "x:-$\x7bB".toList := by
    refine .default (by decide +kernel) fun value hvalue => ?_
    have hset : env.value? (Text.trim (String.ofList "EMPTY".toList)) = some "" := by
      decide +kernel
    exact Option.some.inj (hvalue.symm.trans hset)
  have hpieces : List.Forall₂ (Piece.Becomes env) ps
      ["a$".toList, "$\x7bHOME\x7d".toList, "x:-$\x7bB".toList, "\x7d".toList] :=
    .cons (.literal _) (.cons (.reference hhome) (.cons (.reference hempty)
      (.cons (.literal _) .nil)))
  exact ⟨env, ps, hseparated, by decide +kernel,
    ((expand_pieces env ps hseparated).1 _).mpr ⟨_, hpieces, by decide +kernel⟩⟩

end Datacube.Environment
