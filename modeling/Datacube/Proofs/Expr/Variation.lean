import Datacube.Proofs.Expr.Form

-- Two elements that differ in one element somewhere below them, and what is read alike from both.
namespace Datacube

-- Two lists that differ in one place, where their entries are related.
inductive OneOff {α : Type} (R : α → α → Prop) : List α → List α → Prop where
  | head {a b : α} {rest : List α} (h : R a b) : OneOff R (a :: rest) (b :: rest)
  | tail {a : α} {rest rest' : List α} (h : OneOff R rest rest') : OneOff R (a :: rest) (a :: rest')

namespace OneOff

variable {α β : Type} {R : α → α → Prop} {l l' : List α}

-- The entry that differs is found in both lists, or what is found is the same.
theorem find? (h : OneOff R l l') :
    ∃ a b, R a b ∧ ∀ p : α → Bool, p a = p b →
      l.find? p = l'.find? p ∨ (p a = true ∧ l.find? p = some a ∧ l'.find? p = some b) := by
  induction h with
  | @head a b rest hab =>
      refine ⟨a, b, hab, fun p hp => ?_⟩
      cases ha : p a with
      | true => exact .inr ⟨rfl, List.find?_cons_of_pos ha, List.find?_cons_of_pos (hp ▸ ha)⟩
      | false => exact .inl (by simp [ha, ← hp])
  | @tail c rest rest' _ ih =>
      obtain ⟨a, b, hab, hfind⟩ := ih
      refine ⟨a, b, hab, fun p hp => ?_⟩
      cases hc : p c with
      | true => exact .inl (by simp [hc])
      | false => simpa [List.find?_cons_of_neg, hc] using hfind p hp

theorem filter (h : OneOff R l l') {p : α → Bool} (hp : ∀ a b, R a b → p a = p b) :
    l.filter p = l'.filter p ∨ OneOff R (l.filter p) (l'.filter p) := by
  induction h with
  | @head a b rest hab =>
      have hsame := hp a b hab
      cases ha : p a with
      | true => exact .inr (by simpa [ha, ← hsame] using .head hab)
      | false => exact .inl (by simp [ha, ← hsame])
  | @tail c rest rest' _ ih =>
      cases hc : p c with
      | true =>
          rw [List.filter_cons_of_pos hc, List.filter_cons_of_pos hc]
          exact ih.imp (congrArg _) .tail
      | false => simpa [hc] using ih

theorem map_filter_eq (h : OneOff R l l') {p : α → Bool} {f : α → β}
    (hp : ∀ a b, R a b → p a = p b) (hf : ∀ a b, R a b → p a = true → f a = f b) :
    (l.filter p).map f = (l'.filter p).map f := by
  induction h with
  | @head a b rest hab =>
      have hsame := hp a b hab
      cases ha : p a with
      | true => simp [ha, ← hsame, hf a b hab ha]
      | false => simp [ha, ← hsame]
  | @tail c rest rest' _ ih =>
      cases hc : p c with
      | true => simp [hc, ih]
      | false => simpa [hc] using ih

theorem pair {a b : α} (h : OneOff R [a, b] l') : ∃ a' b', l' = [a', b'] := by
  rcases h with _ | (_ | ⟨⟨⟩⟩) <;> exact ⟨_, _, rfl⟩

end OneOff

namespace Expr

open Markup (Element)

-- Elements that are read for a number, which a child may give.
def boundTags : List String :=
  ["lowerBound", "upperBound", "slicingPosition", "bitIndex"]

-- Names that children are looked up by: of what describes an operation beside its operands, and of
-- the parts that hold operands.
def partTags : List String :=
  ["name", "axisIterator", "iteratorVar", "axis", "lowerBound", "upperBound", "slicingPosition",
    "srsName", "crs", "fieldInterpolation", "value", "bitIndex", "type", "field", "identifier",
    "null", "interpolationMethod", "interpolationType", "nullResistance", "component", "case",
    "default", "condition", "result"]

-- Elements of one name that differ in one child at most.
structure Varied (R : Element → Element → Prop) (e e' : Element) : Prop where
  name : e.name = e'.name
  children : e.children = e'.children ∨ OneOff R e.children e'.children

-- Where elements differ, it is not in what is read of an element with one of the names.
structure Inert (tags : List String) (R : Element → Element → Prop) : Prop where
  name_iff : ∀ {c c'}, R c c' → ∀ tag ∈ tags, c.name = tag ↔ c'.name = tag
  text : ∀ {c c'}, R c c' → c.name ∈ tags → c.text = c'.text
  bound : ∀ {c c'}, R c c' → c.name ∈ tags → c.name ∈ boundTags → boundText c = boundText c'
  inner : ∀ {c c'}, R c c' → c.name ∈ tags → Varied R c c'

theorem Varied.refl {R : Element → Element → Prop} (e : Element) : Varied R e e :=
  ⟨rfl, .inl rfl⟩

theorem Varied.of_oneOff {R : Element → Element → Prop} {name text : String}
    {attributes : List (String × String)} {children children' : List Element}
    (h : OneOff R children children') :
    Varied R ⟨name, attributes, text, children⟩ ⟨name, attributes, text, children'⟩ :=
  ⟨rfl, .inr h⟩

section Parts

variable {R : Element → Element → Prop} {tags : List String} {e e' c c' : Element} {tag : String}

theorem Inert.mono {fewer : List String} (hR : Inert tags R) (hsub : fewer ⊆ tags) :
    Inert fewer R where
  name_iff h tag htag := hR.name_iff h tag (hsub htag)
  text h hname := hR.text h (hsub hname)
  bound h hname := hR.bound h (hsub hname)
  inner h hname := hR.inner h (hsub hname)

theorem Inert.mem_iff (hR : Inert tags R) (h : R c c') : c.name ∈ tags ↔ c'.name ∈ tags := by
  constructor
  · intro hmem
    rwa [(hR.name_iff h _ hmem).mp rfl]
  · intro hmem
    rwa [(hR.name_iff h _ hmem).mpr rfl]

theorem Inert.trimmedText_eq (hR : Inert tags R) (h : R c c') (hname : c.name ∈ tags) :
    c.trimmedText = c'.trimmedText := by
  rw [Element.trimmedText, hR.text h hname, Element.trimmedText]

namespace Varied

-- A child that is looked up is the one that differs or the same.
theorem find? (he : Varied R e e') {p : Element → Bool} (hp : ∀ c c', R c c' → p c = p c') :
    e.children.find? p = e'.children.find? p ∨
      ∃ c c', R c c' ∧ p c = true ∧ e.children.find? p = some c ∧
        e'.children.find? p = some c' := by
  rcases he.children with hsame | hone
  · exact .inl (by rw [hsame])
  · obtain ⟨c, c', hc, hfind⟩ := hone.find?
    exact (hfind p (hp c c' hc)).imp_right fun hfound => ⟨c, c', hc, hfound⟩

theorem childBeside (he : Varied R e e')
    (hnames : ∀ c c', R c c' → (c.name ∈ tags ↔ c'.name ∈ tags))
    (hc : e.childBeside? tags = some c) :
    e'.childBeside? tags = some c ∨ ∃ c', e'.childBeside? tags = some c' ∧ R c c' := by
  unfold Element.childBeside? at hc ⊢
  have hp : ∀ c c', R c c' → decide (c.name ∉ tags) = decide (c'.name ∉ tags) :=
    fun c c' h => decide_eq_decide.mpr (not_congr (hnames c c' h))
  rcases he.find? (p := (·.name ∉ tags)) hp with hsame | ⟨d, d', hd, -, hfound, hfound'⟩
  · exact .inl (hsame.symm.trans hc)
  · obtain rfl := Option.some.inj (hfound.symm.trans hc)
    exact .inr ⟨d', hfound', hd⟩

theorem firstChild (he : Varied R e e') (hc : e.firstChild? = some c) :
    e'.firstChild? = some c ∨ ∃ c', e'.firstChild? = some c' ∧ R c c' := by
  unfold Element.firstChild? at hc ⊢
  rcases he.children with hsame | hone
  · exact .inl (hsame ▸ hc)
  · generalize e.children = children, e'.children = children' at hone hc ⊢
    cases hone with
    | head h =>
        obtain rfl := Option.some.inj hc
        exact .inr ⟨_, rfl, h⟩
    | tail h => exact .inl hc

variable (he : Varied R e e') (hR : Inert tags R)

include he hR

theorem child? (htag : tag ∈ tags) :
    e.child? tag = e'.child? tag ∨
      ∃ c c', R c c' ∧ c.name = tag ∧ e.child? tag = some c ∧ e'.child? tag = some c' := by
  have hp : ∀ c c', R c c' → decide (c.name = tag) = decide (c'.name = tag) :=
    fun c c' h => decide_eq_decide.mpr (hR.name_iff h tag htag)
  refine (he.find? (p := (·.name = tag)) hp).imp_right ?_
  rintro ⟨c, c', hc, hname, hfound⟩
  exact ⟨c, c', hc, of_decide_eq_true hname, hfound⟩

theorem childrenNamed (htag : tag ∈ tags) :
    e.childrenNamed tag = e'.childrenNamed tag ∨
      OneOff R (e.childrenNamed tag) (e'.childrenNamed tag) := by
  rcases he.children with hsame | hone
  · exact .inl (by rw [Element.childrenNamed, hsame, Element.childrenNamed])
  · exact hone.filter fun c c' h => decide_eq_decide.mpr (hR.name_iff h tag htag)

theorem map_childrenNamed_eq {β : Type} (htag : tag ∈ tags) {f : Element → β}
    (hf : ∀ c c', R c c' → c.name = tag → f c = f c') :
    (e.childrenNamed tag).map f = (e'.childrenNamed tag).map f := by
  unfold Element.childrenNamed
  rcases he.children with hsame | hone
  · rw [hsame]
  · exact hone.map_filter_eq (fun c c' h => decide_eq_decide.mpr (hR.name_iff h tag htag))
      fun c c' h hname => hf c c' h (of_decide_eq_true hname)

theorem childText?_eq (htag : tag ∈ tags) : e.childText? tag = e'.childText? tag := by
  unfold Element.childText?
  rcases he.child? hR htag with hsame | ⟨c, c', hc, rfl, hfound, hfound'⟩
  · rw [hsame]
  · rw [hfound, hfound', Option.map_some, Option.map_some, hR.trimmedText_eq hc htag]

theorem texts_eq (htag : tag ∈ tags) :
    (e.childrenNamed tag).map (·.trimmedText) = (e'.childrenNamed tag).map (·.trimmedText) :=
  he.map_childrenNamed_eq hR htag fun _ _ hc hname => hR.trimmedText_eq hc (hname ▸ htag)

theorem requiredText_eq (htag : tag ∈ tags) : e.requiredText tag = e'.requiredText tag := by
  simp only [Element.requiredText, he.childText?_eq hR htag, he.name]

theorem integerChild (htag : tag ∈ tags) (hbound : tag ∈ boundTags) :
    (e.child? tag = none ∧ e'.child? tag = none) ∨
      ∃ c c', e.child? tag = some c ∧ e'.child? tag = some c' ∧
        integerParameter e c = integerParameter e' c' := by
  have hsame : ∀ {c c' : Element}, c.name = c'.name → boundText c = boundText c' →
      integerParameter e c = integerParameter e' c' := by
    intro c c' hname htext
    delta integerParameter
    rw [htext, hname, he.name]
  rcases he.child? hR htag with h | ⟨c, c', hc, rfl, hfound, hfound'⟩
  · rw [h]
    cases e'.child? tag with
    | none => exact .inl ⟨rfl, rfl⟩
    | some c => exact .inr ⟨c, c, rfl, rfl, hsame rfl rfl⟩
  · have hname := (hR.name_iff hc _ htag).mp rfl
    exact .inr ⟨c, c', hfound, hfound', hsame hname.symm (hR.bound hc htag hbound)⟩

end Varied

end Parts

-- What describes an operation is read alike.
namespace Varied

variable {R : Element → Element → Prop} {e e' : Element}

theorem axisIterator_eq (he : Varied R e e') (hR : Inert partTags R) :
    AxisIterator.parse e = AxisIterator.parse e' := by
  have hvar := he.requiredText_eq hR (show "iteratorVar" ∈ partTags by decide)
  have haxis := he.requiredText_eq hR (show "axis" ∈ partTags by decide)
  unfold AxisIterator.parse
  rw [hvar, haxis]
  rcases he.integerChild hR (show "lowerBound" ∈ partTags by decide) (by decide) with
    ⟨hlower, hlower'⟩ | ⟨lower, lower', hlower, hlower', hlo⟩ <;>
  rcases he.integerChild hR (show "upperBound" ∈ partTags by decide) (by decide) with
    ⟨hupper, hupper'⟩ | ⟨upper, upper', hupper, hupper', hhi⟩ <;>
  simp only [*]

theorem parseIterators_eq (he : Varied R e e') (hR : Inert partTags R) :
    parseIterators e = parseIterators e' := by
  have hmem : "axisIterator" ∈ partTags := by decide
  have hparsed := he.map_childrenNamed_eq hR hmem (f := AxisIterator.parse)
    fun c c' hc hname => (hR.inner hc (hname ▸ hmem)).axisIterator_eq hR
  have hmapM : ∀ l : List Element,
      l.mapM AxisIterator.parse = (l.map AxisIterator.parse).mapM id := by
    intro l
    simp [List.mapM_map]
  simp only [parseIterators, hmapM, hparsed, he.name]

theorem axisGroups_eq {children children' : List Element} (h : OneOff R children children')
    (hR : Inert partTags R) (owner : String) (current : Option AxisGroup) :
    axisGroups owner current children = axisGroups owner current children' := by
  have hsub : subsetParameters ⊆ partTags := by decide
  induction h generalizing current with
  | @head c c' rest hc =>
      have hadd : ∀ g : AxisGroup,
          c.name ∈ subsetParameters → g.addParameter c = g.addParameter c' := by
        intro g hname
        have hpart := hsub hname
        have hsame : c'.name = c.name := (hR.name_iff hc _ hpart).mp rfl
        unfold AxisGroup.addParameter
        rw [hsame, ← hR.trimmedText_eq hc hpart]
        split
        · rfl
        · rfl
        · rw [hR.bound hc hpart (by simp_all [boundTags])]
        · rw [hR.bound hc hpart (by simp_all [boundTags])]
        · rw [hR.bound hc hpart (by simp_all [boundTags])]
        · rfl
      by_cases hname : c.name ∈ subsetParameters
      · have hsame : c'.name = c.name := (hR.name_iff hc _ (hsub hname)).mp rfl
        simp only [axisGroups, hsame, hname, if_true, hadd _ hname,
          hR.trimmedText_eq hc (hsub hname)]
      · have hname' := mt ((hR.mono hsub).mem_iff hc).mpr hname
        have hother : ∀ {d : Element}, d.name ∉ subsetParameters →
            axisGroups owner current (d :: rest) = axisGroups owner current rest := by
          intro d hd
          have hd' : d.name ≠ "axis" := fun h => hd (h ▸ by decide)
          simp only [axisGroups, hd, hd', if_false]
        rw [hother hname, hother hname']
  | tail _ ih => simp only [axisGroups, ih]

theorem axisSubsets_eq (he : Varied R e e') (hR : Inert partTags R) (op : SubsetOp) :
    axisSubsets e op = axisSubsets e' op := by
  unfold axisSubsets
  rw [he.name]
  rcases he.children with hsame | hone
  · rw [hsame]
  · rw [axisGroups_eq hone hR]

theorem interpolationMethods_eq (he : Varied R e e') (hR : Inert partTags R) :
    interpolationMethods e = interpolationMethods e' := by
  have hmem : "interpolationMethod" ∈ partTags := by decide
  refine he.map_childrenNamed_eq hR hmem fun c c' hc hname => ?_
  have hinner := hR.inner hc (hname ▸ hmem)
  have hkind := hinner.childText?_eq hR (show "interpolationType" ∈ partTags by decide)
  have hresistance := hinner.childText?_eq hR (show "nullResistance" ∈ partTags by decide)
  simp only [interpolationMethod, hkind, hresistance, hR.trimmedText_eq hc (hname ▸ hmem)]

theorem crsTexts_eq (he : Varied R e e') (hR : Inert partTags R) :
    (e.children.filter fun c => c.name = "srsName" ∨ c.name = "crs").map (·.trimmedText) =
      (e'.children.filter fun c => c.name = "srsName" ∨ c.name = "crs").map (·.trimmedText) := by
  rcases he.children with hsame | hone
  · rw [hsame]
  · refine hone.map_filter_eq (fun c c' hc => ?_) fun c c' hc hname => hR.trimmedText_eq hc ?_
    · rw [decide_eq_decide, hR.name_iff hc _ (by decide), hR.name_iff hc _ (by decide)]
    · rcases of_decide_eq_true hname with hname | hname <;> rw [hname] <;> decide

theorem parseChange?_eq (he : Varied R e e') (hR : Inert partTags R) :
    parseChange? e = parseChange? e' := by
  have hid := he.requiredText_eq hR (show "identifier" ∈ partTags by decide)
  have hfield := he.requiredText_eq hR (show "field" ∈ partTags by decide)
  have hnull := he.texts_eq hR (show "null" ∈ partTags by decide)
  simp only [parseChange?, ← he.name, hid, hfield, hnull, he.crsTexts_eq hR,
    he.interpolationMethods_eq hR, missingMethod]

theorem selectedField?_eq (he : Varied R e e') (hR : Inert partTags R) :
    selectedField? e = selectedField? e' := by
  have hmem : "field" ∈ partTags := by decide
  unfold selectedField?
  rcases he.child? hR hmem with hsame | ⟨c, c', hc, hname, hfound, hfound'⟩
  · rw [hsame]
  · have hpart : c.name ∈ partTags := hname ▸ hmem
    have hown := (hR.inner hc hpart).childText?_eq hR (show "name" ∈ partTags by decide)
    simp only [hfound, hfound', Option.map_some, hown, hR.trimmedText_eq hc hpart]

end Varied

end Expr

end Datacube
