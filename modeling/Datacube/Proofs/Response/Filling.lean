import Datacube.Proofs.Text.Characters
import Datacube.Proofs.Text.Replace
import Datacube.Proofs.Text.Trim
import Datacube.Response.Template

-- Filling the holes of a template one after the other, and all at once. The two agree as long as
-- no value brings a brace.
namespace Datacube.Response

open Text (All)

def NotBrace (c : Char) : Prop :=
  c ≠ '\x7b' ∧ c ≠ '\x7d'

instance : DecidablePred NotBrace := fun c =>
  inferInstanceAs (Decidable (c ≠ '\x7b' ∧ c ≠ '\x7d'))

abbrev BraceFree (s : String) : Prop :=
  All NotBrace s

theorem BraceFree.not_opens {s : String} (h : BraceFree s) : '\x7b' ∉ s.toList :=
  h.not_mem (by decide)

-- Literals are taken as lists of characters, which are cheap to go through.
theorem braceFree_literal {cs : List Char} (h : ∀ c ∈ cs, NotBrace c) :
    BraceFree (String.ofList cs) :=
  Text.all_ofList.mpr h

theorem braceFree_enclosed {before after : List Char} {s : String} (hs : BraceFree s)
    (hbefore : ∀ c ∈ before, NotBrace c) (hafter : ∀ c ∈ after, NotBrace c) :
    BraceFree (String.ofList before ++ s ++ String.ofList after) :=
  Text.all_append.mpr
    ⟨Text.all_append.mpr ⟨braceFree_literal hbefore, hs⟩, braceFree_literal hafter⟩

-- A piece with the values put in at once; a hole without a value stays.
def Piece.filled (values : List (String × String)) : Piece → String
  | literal text => text
  | hole name => (values.lookup name).getD (holeText name)

def fill (values : List (String × String)) (pieces : List Piece) : String :=
  String.join (pieces.map (Piece.filled values))

def Piece.name? : Piece → Option String
  | literal _ => none
  | hole name => some name

-- A piece with one value put in.
def Piece.put (name value : String) : Piece → Piece
  | literal text => literal text
  | hole other => if other = name then literal value else hole other

-- Braces stand around the names of holes only.
def Piece.Clean : Piece → Prop
  | literal text => BraceFree text
  | hole name => BraceFree name

instance : DecidablePred Piece.Clean := fun p =>
  match p with
  | .literal text => inferInstanceAs (Decidable (BraceFree text))
  | .hole name => inferInstanceAs (Decidable (BraceFree name))

section Once

variable {name value : String} {pieces : List Piece}

@[simp] theorem templateText_cons (p : Piece) (ps : List Piece) :
    templateText (p :: ps) = p.text ++ templateText ps := by
  simp [templateText]

@[simp] theorem templateText_append (ps qs : List Piece) :
    templateText (ps ++ qs) = templateText ps ++ templateText qs := by
  simp [templateText, String.join_append]

-- A hole is its own mark only: names end at the closing brace.
theorem eq_of_mark_starts {name other : String} {rest : List Char} (hname : BraceFree name)
    (hother : BraceFree other)
    (h : '\x7b' :: (name.toList ++ ['\x7d']) <+: '\x7b' :: (other.toList ++ '\x7d' :: rest)) :
    other = name := by
  have hends : ∀ {s : String} (tail : List Char), BraceFree s →
      (s.toList ++ '\x7d' :: tail).takeWhile (· ≠ '\x7d') = s.toList := by
    intro s tail hs
    rw [List.takeWhile_append_of_pos fun c hc => by simpa using (hs c hc).2]
    simp
  obtain ⟨tail, htail⟩ := (List.cons_prefix_cons.mp h).2
  rw [List.append_assoc] at htail
  exact String.toList_inj.mp
    ((hends rest hother).symm.trans ((congrArg _ htail.symm).trans (hends tail hname)))

-- The text of one piece in front of others, with a value put in everywhere.
theorem replaceMark_piece (hname : BraceFree name) {p : Piece} (hp : p.Clean) (rest : List Char) :
    Text.replaceMark '\x7b' (name.toList ++ ['\x7d']) value.toList (p.text.toList ++ rest) =
      (p.put name value).text.toList ++
        Text.replaceMark '\x7b' (name.toList ++ ['\x7d']) value.toList rest := by
  cases p with
  | literal text => exact Text.replaceMark_append_of_not_mem (BraceFree.not_opens hp)
  | hole other =>
      have htext : (Piece.hole other).text.toList ++ rest =
          '\x7b' :: (other.toList ++ ['\x7d'] ++ rest) := by
        simp [Piece.text, holeText]
      rw [htext]
      by_cases hsame : other = name
      · subst hsame
        rw [← List.cons_append, Text.replaceMark_mark]
        simp [Piece.put, Piece.text]
      · have hinside : '\x7b' ∉ other.toList ++ ['\x7d'] := by
          simpa using BraceFree.not_opens hp
        have hmark : ¬ '\x7b' :: (name.toList ++ ['\x7d']) <+:
            '\x7b' :: (other.toList ++ ['\x7d'] ++ rest) := by
          intro h
          rw [List.append_assoc] at h
          exact hsame (eq_of_mark_starts hname hp h)
        rw [Text.replaceMark_cons hmark, Text.replaceMark_append_of_not_mem hinside]
        simp [Piece.put, hsame, Piece.text, holeText]

theorem replaceMark_templateText (hname : BraceFree name) (h : ∀ p ∈ pieces, p.Clean)
    (rest : List Char) :
    Text.replaceMark '\x7b' (name.toList ++ ['\x7d']) value.toList
        ((templateText pieces).toList ++ rest) =
      (templateText (pieces.map (Piece.put name value))).toList ++
        Text.replaceMark '\x7b' (name.toList ++ ['\x7d']) value.toList rest := by
  induction pieces with
  | nil => simp [templateText]
  | cons p ps ih =>
      obtain ⟨hp, hps⟩ := List.forall_mem_cons.mp h
      rw [templateText_cons, String.toList_append, List.append_assoc, replaceMark_piece hname hp,
        ih hps, List.map_cons, templateText_cons, String.toList_append, List.append_assoc]

-- Put a value into a clean template; the value itself may hold braces.
theorem fillHole_templateText (hname : BraceFree name) (h : ∀ p ∈ pieces, p.Clean) :
    fillHole (templateText pieces) name value =
      templateText (pieces.map (Piece.put name value)) := by
  have hwhole := @replaceMark_templateText name value pieces hname h []
  rw [List.append_nil, Text.replaceMark_nil, List.append_nil] at hwhole
  rw [fillHole, hwhole, String.ofList_toList]

-- A text with braces between clean pieces is filled by itself, unless what follows it goes on with
-- a mark.
theorem fillHole_between {before after : List Piece} {text : String} {c : Char} {rest : List Char}
    (hname : BraceFree name) (hbefore : ∀ p ∈ before, p.Clean) (hafter : ∀ p ∈ after, p.Clean)
    (hrest : (templateText after).toList = c :: rest)
    (hc : c ∉ '\x7b' :: (name.toList ++ ['\x7d'])) :
    fillHole (templateText (before ++ .literal text :: after)) name value =
      templateText (before.map (Piece.put name value)) ++
        (fillHole text name value ++ templateText (after.map (Piece.put name value))) := by
  have hparts : (templateText (before ++ .literal text :: after)).toList =
      (templateText before).toList ++ (text.toList ++ c :: rest) := by
    simp [hrest, Piece.text]
  rw [List.mem_cons, not_or] at hc
  rw [fillHole, hparts, replaceMark_templateText hname hbefore,
    Text.replaceMark_append_cons hc.1 hc.2, ← hrest, String.ofList_append, String.ofList_append,
    String.ofList_toList]
  exact congrArg _ (congrArg _ (fillHole_templateText hname hafter))

theorem clean_map_put (hvalue : BraceFree value) (h : ∀ p ∈ pieces, p.Clean) :
    ∀ p ∈ pieces.map (Piece.put name value), p.Clean := by
  intro q hq
  obtain ⟨p, hp, rfl⟩ := List.mem_map.mp hq
  cases p with
  | literal text => exact h _ hp
  | hole other =>
      by_cases hsame : other = name
      · simpa [Piece.put, hsame, Piece.Clean] using hvalue
      · simpa [Piece.put, hsame] using h _ hp

end Once

section All

variable {values : List (String × String)} {pieces : List Piece}

theorem fill_nil (pieces : List Piece) : fill [] pieces = templateText pieces := by
  refine congrArg String.join (List.map_congr_left fun p _ => ?_)
  cases p <;> rfl

-- What is put in first stays.
theorem fill_cons (name value : String) (values : List (String × String)) (pieces : List Piece) :
    fill ((name, value) :: values) pieces = fill values (pieces.map (Piece.put name value)) := by
  unfold fill
  rw [List.map_map]
  refine congrArg String.join (List.map_congr_left fun p _ => ?_)
  cases p with
  | literal text => rfl
  | hole other =>
      by_cases hsame : other = name
      · simp [Piece.filled, Piece.put, hsame]
      · have hlookup : List.lookup other ((name, value) :: values) = List.lookup other values := by
          rw [List.lookup_cons, beq_false_of_ne hsame]
        simp [Piece.filled, Piece.put, hsame, hlookup]

-- Names and values without braces.
def Plain (values : List (String × String)) : Prop :=
  ∀ entry ∈ values, BraceFree entry.1 ∧ BraceFree entry.2

theorem substitute_eq_fill (hpieces : ∀ p ∈ pieces, p.Clean) (hvalues : Plain values) :
    substitute (templateText pieces) values = fill values pieces := by
  induction values generalizing pieces with
  | nil => exact (fill_nil pieces).symm
  | cons entry values ih =>
      obtain ⟨name, value⟩ := entry
      obtain ⟨⟨hname, hvalue⟩, hvalues⟩ := List.forall_mem_cons.mp hvalues
      rw [fill_cons, ← ih (clean_map_put hvalue hpieces) hvalues,
        ← fillHole_templateText hname hpieces]
      rfl

-- The order of values for distinct names does not matter.
theorem lookup_perm {reordered : List (String × String)} (h : reordered.Perm values)
    (hnodup : (reordered.map Prod.fst).Nodup) (name : String) :
    reordered.lookup name = values.lookup name := by
  induction h with
  | nil => rfl
  | cons entry _ ih =>
      rw [List.map_cons, List.nodup_cons] at hnodup
      rw [List.lookup_cons, List.lookup_cons, ih hnodup.2]
  | swap first second rest =>
      obtain ⟨one, value⟩ := first
      obtain ⟨other, value'⟩ := second
      have hne : one ≠ other := by
        rintro rfl
        simp at hnodup
      simp only [List.lookup_cons]
      by_cases hname : name = one
      · simp [hname, beq_false_of_ne hne]
      · simp [beq_false_of_ne hname]
  | trans h _ ih ih' =>
      rw [ih hnodup, ih' ((h.map Prod.fst).nodup hnodup)]

theorem fill_perm {reordered : List (String × String)} (h : reordered.Perm values)
    (hnodup : (reordered.map Prod.fst).Nodup) (pieces : List Piece) :
    fill reordered pieces = fill values pieces := by
  refine congrArg String.join (List.map_congr_left fun p _ => ?_)
  cases p with
  | literal text => rfl
  | hole name => rw [Piece.filled, Piece.filled, lookup_perm h hnodup]

-- Filling one hole after the other is filling all at once: of several values for a name the first
-- counts, and holes without a value stay. So the order of values for distinct names is free.
theorem substitute_simultaneous (pieces : List Piece) (values : List (String × String))
    (hpieces : ∀ p ∈ pieces, p.Clean) (hvalues : Plain values) :
    substitute (templateText pieces) values = fill values pieces ∧
      ((values.map Prod.fst).Nodup → ∀ reordered : List (String × String),
        reordered.Perm values →
          substitute (templateText pieces) reordered = substitute (templateText pieces) values) := by
  refine ⟨substitute_eq_fill hpieces hvalues, fun hnodup reordered hperm => ?_⟩
  have hplain : Plain reordered := fun entry hentry => hvalues entry (hperm.mem_iff.mp hentry)
  have hdistinct : (reordered.map Prod.fst).Nodup := (hperm.map Prod.fst).symm.nodup hnodup
  rw [substitute_eq_fill hpieces hplain, substitute_eq_fill hpieces hvalues,
    fill_perm hperm hdistinct]

-- Holes next to each other, a hole without a value, and values that are names of other holes.
def crossedPieces : List Piece :=
  [.literal "x", .hole "x", .hole "y", .hole "w"]

def crossedValues : List (String × String) :=
  [("x", "y"), ("y", "x"), ("z", "w")]

theorem substitute_simultaneous_crossed :
    (∀ p ∈ crossedPieces, p.Clean) ∧ Plain crossedValues ∧
      (crossedValues.map Prod.fst).Nodup ∧ crossedValues.reverse.Perm crossedValues ∧
      substitute (templateText crossedPieces) crossedValues = "xyx\x7bw\x7d" ∧
      substitute (templateText crossedPieces) crossedValues.reverse = "xyx\x7bw\x7d" := by
  have hpieces : ∀ p ∈ crossedPieces, p.Clean := by decide
  have hvalues : Plain crossedValues := by
    unfold Plain
    decide
  have hnodup : (crossedValues.map Prod.fst).Nodup := by decide
  have hperm : crossedValues.reverse.Perm crossedValues := List.reverse_perm _
  obtain ⟨hfill, horder⟩ := substitute_simultaneous crossedPieces crossedValues hpieces hvalues
  have hfilled : fill crossedValues crossedPieces = "xyx\x7bw\x7d" := by decide +kernel
  exact ⟨hpieces, hvalues, hnodup, hperm, hfill.trans hfilled,
    (horder hnodup _ hperm).trans (hfill.trans hfilled)⟩

-- A template whose holes all get a value keeps no brace.
theorem braceFree_fill (hpieces : ∀ p ∈ pieces, p.Clean) (hvalues : Plain values)
    (hnames : pieces.filterMap Piece.name? ⊆ values.map Prod.fst) :
    BraceFree (fill values pieces) := by
  rw [fill, BraceFree, Text.all_join]
  intro text htext
  obtain ⟨p, hp, rfl⟩ := List.mem_map.mp htext
  cases p with
  | literal text => exact hpieces _ hp
  | hole name =>
      obtain ⟨entry, hentry, hname⟩ :=
        List.mem_map.mp (hnames (List.mem_filterMap.mpr ⟨_, hp, rfl⟩))
      cases hlookup : values.lookup name with
      | none =>
          have hother := List.lookup_eq_none_iff.mp hlookup entry hentry
          simp [hname] at hother
      | some value =>
          obtain ⟨before, after, hsplit, -⟩ := List.lookup_eq_some_iff.mp hlookup
          rw [Piece.filled, hlookup, Option.getD_some]
          exact (hvalues (name, value) (by simp [hsplit])).2

end All

section Builtin

theorem clean_builtin (name : TemplateName) : ∀ p ∈ builtin name, p.Clean := by
  cases name
  all_goals
    simp only [builtin, Builtin.gridCoverage, Builtin.multiPointCoverage, Builtin.rangeField,
      Builtin.rectifiedGridOrigin, Builtin.offsetVector, Builtin.exceptionReport,
      List.forall_mem_cons, List.not_mem_nil, false_implies, implies_true, and_true, Piece.Clean]
    and_intros
    all_goals exact braceFree_literal (by decide)

theorem mem_templateText {c : Char} {p : Piece} {pieces : List Piece} (hp : p ∈ pieces)
    (hc : c ∈ p.text.toList) : c ∈ (templateText pieces).toList := by
  rw [templateText, String.toList_join]
  exact List.mem_flatMap.mpr ⟨p.text, List.mem_map_of_mem hp, hc⟩

-- Built-in templates are not blank.
theorem render_builtin (name : TemplateName) (values : List (String × String)) :
    ({} : Templates).render name values =
      .ok (substitute (templateText (builtin name)) values) := by
  have hmarkup : '<' ∈ (templateText (builtin name)).toList := by
    cases name <;> exact mem_templateText List.mem_cons_self (by simp [Piece.text])
  have hblank : Text.trim (templateText (builtin name)) ≠ "" :=
    Text.trim_ne_empty hmarkup (by decide)
  exact if_neg hblank

end Builtin

end Datacube.Response
