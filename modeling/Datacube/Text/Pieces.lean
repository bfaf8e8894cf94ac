namespace Datacube.Text

-- The pieces between the occurrences of `sep`: one more piece than there are occurrences.
def pieces (sep : Char) : List Char → List (List Char)
  | [] => [[]]
  | c :: cs =>
    if c = sep then [] :: pieces sep cs
    else
      match pieces sep cs with
      | [] => [[c]]
      | p :: ps => (c :: p) :: ps

def splitAt (sep : Char) (s : String) : List String :=
  (pieces sep s.toList).map String.ofList

-- What stands before and after the first occurrence of `sep`.
def cut (sep : Char) : List Char → Option (List Char × List Char)
  | [] => none
  | c :: cs =>
    if c = sep then some ([], cs)
    else (cut sep cs).map fun (before, after) => (c :: before, after)

def cutAt (sep : Char) (s : String) : Option (String × String) :=
  (cut sep s.toList).map fun (before, after) => (String.ofList before, String.ofList after)

-- What follows `start` in a text that begins with it.
def afterStart : List Char → List Char → Option (List Char)
  | [], cs => some cs
  | _ :: _, [] => none
  | p :: ps, c :: cs => if p = c then afterStart ps cs else none

-- What stands before and after the first occurrence of a mark of several characters.
def cutMark (mark : List Char) : List Char → Option (List Char × List Char)
  | [] => (afterStart mark []).map fun after => ([], after)
  | c :: cs =>
    match afterStart mark (c :: cs) with
    | some after => some ([], after)
    | none => (cutMark mark cs).map fun (before, after) => (c :: before, after)

theorem length_afterStart {ps cs rest : List Char} (h : afterStart ps cs = some rest) :
    cs.length = ps.length + rest.length := by
  induction ps generalizing cs with
  | nil => simp [afterStart] at h; simp [h]
  | cons p ps ih =>
      cases cs with
      | nil => simp [afterStart] at h
      | cons c cs =>
          simp only [afterStart] at h
          split at h
          · simp only [List.length_cons, ih h]; omega
          · simp at h

theorem length_cut {sep : Char} {cs before after : List Char}
    (h : cut sep cs = some (before, after)) :
    cs.length = before.length + after.length + 1 := by
  induction cs generalizing before with
  | nil => simp [cut] at h
  | cons c cs ih =>
      simp only [cut] at h
      split at h
      · simp only [Option.some.injEq, Prod.mk.injEq] at h
        obtain ⟨rfl, rfl⟩ := h
        simp
      · obtain ⟨⟨b, a⟩, hb, he⟩ := Option.map_eq_some_iff.mp h
        simp only [Prod.mk.injEq] at he
        obtain ⟨rfl, rfl⟩ := he
        simp only [List.length_cons, ih hb]
        omega

theorem length_cutMark {mark cs before after : List Char}
    (h : cutMark mark cs = some (before, after)) :
    cs.length = before.length + mark.length + after.length := by
  induction cs generalizing before with
  | nil =>
      obtain ⟨a, ha, he⟩ := Option.map_eq_some_iff.mp h
      simp only [Prod.mk.injEq] at he
      obtain ⟨rfl, rfl⟩ := he
      simpa using length_afterStart ha
  | cons c cs ih =>
      simp only [cutMark] at h
      split at h
      · rename_i rest ha
        simp only [Option.some.injEq, Prod.mk.injEq] at h
        obtain ⟨rfl, rfl⟩ := h
        simpa using length_afterStart ha
      · obtain ⟨⟨b, a⟩, hb, he⟩ := Option.map_eq_some_iff.mp h
        simp only [Prod.mk.injEq] at he
        obtain ⟨rfl, rfl⟩ := he
        simp only [List.length_cons, ih hb]
        omega

-- Each occurrence of the mark `first :: more`, from left to right and without overlap, becomes
-- `value`. What is put in is not looked at again.
def replaceMark (first : Char) (more value : List Char) (cs : List Char) : List Char :=
  match cs with
  | [] => []
  | c :: rest =>
    match _h : afterStart (first :: more) (c :: rest) with
    | some after => value ++ replaceMark first more value after
    | none => c :: replaceMark first more value rest
termination_by cs.length
decreasing_by
  · have := length_afterStart _h
    simp only [List.length_cons] at this ⊢
    omega
  · simp

-- Every `c` becomes the text `value c`.
def replaceEach (value : Char → List Char) (s : String) : String :=
  String.ofList (s.toList.flatMap value)

end Datacube.Text
