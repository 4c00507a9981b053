import Mathlib.Tactic.Choose
import Turnstile.Proofs.Toml.Document

/-!
# The lines of a name

Every line of a document is about one of the names in front: a header about the first part
of its path, a key about the first part of its own path or of the path of its header. A line
looks at the member of that name and changes that member only (`add?_local`), so the lines of
one name do not know of the others: a document makes a table if the lines of every name do,
and each name has in it what its own lines make (`ofLines?_of_own`).
-/

namespace Turnstile.Toml

/-! ## Members -/

/-- Nothing is found under a name that no member has. -/
theorem find?_of_new {α : Type} {members : List (String × α)} {name : String}
    (new : name ∉ members.map Prod.fst) :
    (members.find? fun (other, _) => other = name) = none := by
  rw [List.find?_eq_none]
  intro member there same
  exact new (List.mem_map.mpr ⟨member, there, by simpa using same⟩)

namespace Tree

theorem member?_setMember_self (members : Members) (name : String) (tree : Tree) :
    member? (setMember members name tree) name = some tree := by
  induction members with
  | nil => simp [setMember, member?]
  | cons member members inductionHypothesis =>
      rw [setMember]
      split
      · simp [member?]
      · next different =>
          rw [← inductionHypothesis, member?, member?,
            List.find?_cons_of_neg (by simpa using different)]

theorem member?_setMember_of_ne {name other : String} (different : other ≠ name)
    (members : Members) (tree : Tree) :
    member? (setMember members name tree) other = member? members other := by
  induction members with
  | nil => simp [setMember, member?, Ne.symm different]
  | cons member members inductionHypothesis =>
      obtain ⟨first, held⟩ := member
      rw [setMember]
      split
      · next same =>
          subst same
          rw [member?, member?, List.find?_cons_of_neg (by simpa using Ne.symm different),
            List.find?_cons_of_neg (by simpa using Ne.symm different)]
      · by_cases found : first = other
        · rw [member?, member?, List.find?_cons_of_pos (by simpa using found),
            List.find?_cons_of_pos (by simpa using found)]
        · rw [member?, List.find?_cons_of_neg (by simpa using found), ← member?,
            inductionHypothesis, member?, member?, List.find?_cons_of_neg (by simpa using found)]

/-- What a name has in a table, it has in the table's value. -/
theorem member?_toMembers (members : Members) (name : String) :
    Toml.member? (toMembers members) name = (member? members name).map toValue := by
  induction members with
  | nil => rfl
  | cons member members inductionHypothesis =>
      obtain ⟨first, tree⟩ := member
      rw [toMembers]
      by_cases found : first = name
      · rw [Toml.member?, member?, List.find?_cons_of_pos (by simpa using found),
          List.find?_cons_of_pos (by simpa using found)]
        rfl
      · rw [Toml.member?, member?, List.find?_cons_of_neg (by simpa using found),
          List.find?_cons_of_neg (by simpa using found), ← Toml.member?, ← member?,
          inductionHypothesis]

/-- A change of a table that looks at the member of one name and sets that member only. -/
def IsLocal (name : String) (change : Members → Option Members) : Prop :=
  ∃ step : Option Tree → Option Tree,
    ∀ members, change members = (step (member? members name)).map (setMember members name)

/-- What putting a value under a dotted key makes of the member that the key starts with. -/
def putHeld (mayEnd : Bool) (rest : List String) (value : Toml) (held : Option Tree) :
    Option Tree :=
  match rest with
  | [] =>
      match mayEnd, held with
      | true, none => some (.value value)
      | _, _ => none
  | next :: rest =>
      match held with
      | none => (put true [] (next :: rest) value).map (.table .dotted)
      | some (.table .header _) => none
      | some (.table origin inner) =>
          (put (origin = .dotted) inner (next :: rest) value).map (.table origin)
      | some (.tables earlier last) =>
          (put false last (next :: rest) value).map (.tables earlier)
      | some (.value _) => none

/-- What changing a table makes of the member that its path starts with. -/
def withinHeld (change : Members → Option Members) (rest : List String) :
    Option Tree → Option Tree
  | some (.table origin inner) => (within change inner rest).map (.table origin)
  | some (.tables earlier last) => (within change last rest).map (.tables earlier)
  | _ => none

/-- What a header makes of the member that its path starts with, if the path goes on. -/
def aboveHeld (change : Members → String → Option Members) (rest : List String) :
    Option Tree → Option Tree
  | none => (above change [] rest).map (.table .implied)
  | some (.table origin inner) => (above change inner rest).map (.table origin)
  | some (.tables earlier last) => (above change last rest).map (.tables earlier)
  | some (.value _) => none

/-- What the header of a table makes of the member that its path ends with. -/
def openedTable : Option Tree → Option Tree
  | none => some (.table .header [])
  | some (.table .implied inner) => some (.table .header inner)
  | _ => none

/-- What the header of an element makes of the member that its path ends with. -/
def openedElement : Option Tree → Option Tree
  | none => some (.tables [] [])
  | some (.tables earlier last) => some (.tables (earlier ++ [last]) [])
  | _ => none

theorem put_local (mayEnd : Bool) (name : String) (rest : List String) (value : Toml) :
    IsLocal name fun members => put mayEnd members (name :: rest) value := by
  refine ⟨putHeld mayEnd rest value, fun members => ?_⟩
  cases rest with
  | nil =>
      simp only [put]
      cases mayEnd <;> cases member? members name <;> rfl
  | cons next rest =>
      change put mayEnd members (name :: next :: rest) value = _
      rw [put.eq_def mayEnd]
      dsimp only
      rcases member? members name with _ | ⟨_⟩ | ⟨_ | _ | _, _⟩ | ⟨_, _⟩ <;>
        simp only [putHeld, Option.map_map, Option.map_none] <;> rfl

theorem within_local (change : Members → Option Members) (name : String) (rest : List String) :
    IsLocal name fun members => within change members (name :: rest) := by
  refine ⟨withinHeld change rest, fun members => ?_⟩
  simp only [within]
  rcases member? members name with _ | ⟨_⟩ | ⟨_, _⟩ | ⟨_, _⟩ <;>
    simp only [withinHeld, Option.map_map, Option.map_none] <;> rfl

/-- A header changes the member that its path starts with, if at its end it changes the member
that its path ends with. -/
theorem above_local {change : Members → String → Option Members}
    (ending : ∀ name, IsLocal name fun members => change members name) (name : String)
    (rest : List String) : IsLocal name fun members => above change members (name :: rest) := by
  cases rest with
  | nil => exact ending name
  | cons next rest =>
      refine ⟨aboveHeld change (next :: rest), fun members => ?_⟩
      change above change members (name :: next :: rest) = _
      rw [above.eq_def]
      dsimp only
      rcases member? members name with _ | ⟨_⟩ | ⟨_, _⟩ | ⟨_, _⟩ <;>
        simp only [aboveHeld, Option.map_map, Option.map_none] <;> rfl

theorem openTable_local (name : String) (rest : List String) :
    IsLocal name fun members => openTable members (name :: rest) := by
  refine above_local (fun name => ⟨openedTable, fun members => ?_⟩) name rest
  dsimp only
  rcases member? members name with _ | ⟨_⟩ | ⟨_ | _ | _, _⟩ | ⟨_, _⟩ <;> rfl

theorem openElement_local (name : String) (rest : List String) :
    IsLocal name fun members => openElement members (name :: rest) := by
  refine above_local (fun name => ⟨openedElement, fun members => ?_⟩) name rest
  dsimp only
  rcases member? members name with _ | ⟨_⟩ | ⟨_, _⟩ | ⟨_, _⟩ <;> rfl

end Tree

/-! ## Lines -/

open Toml.Tree

namespace Line

/-- The path of a line. -/
def path : Line → List String
  | table path => path
  | element path => path
  | pair path _ => path

/-- The table that keys belong to behind a line. -/
def currentAfter (current : List String) : Line → List String
  | table path => path
  | element path => path
  | pair _ _ => current

/-- The name that a line is about. -/
def name? (current : List String) : Line → Option String
  | table path => path.head?
  | element path => path.head?
  | pair path _ => (current ++ path).head?

end Line

/-- A document spells no line without a path. -/
theorem Grammar.Spells.path_ne_nil {text : String} {lines : List Line}
    (spells : Grammar.Spells text lines) : ∀ line ∈ lines, line.path ≠ [] := by
  have key : ∀ {path : List String} {input rest : List Char}, Grammar.Key input path rest →
      path ≠ [] := by
    intro path input rest key
    cases key.parts <;> exact List.cons_ne_nil _ _
  have statement : ∀ {said : List Line} {input rest : List Char},
      Grammar.Statement input said rest → ∀ line ∈ said, line.path ≠ [] := by
    intro said input rest statement line there
    cases statement with
    | nothing => cases there
    | table _ held | element _ held =>
        obtain rfl := List.mem_singleton.mp there
        exact key held
    | pair held =>
        obtain rfl := List.mem_singleton.mp there
        cases held with
        | mk held => exact key held
  have document : ∀ {input : List Char} {lines : List Line}, Grammar.Document input lines →
      ∀ line ∈ lines, line.path ≠ [] := by
    intro input lines document
    induction document with
    | last _ said => exact statement said
    | more _ said _ _ _ _ inductionHypothesis =>
        intro line there
        exact (List.mem_append.mp there).elim (statement said line) (inductionHypothesis line)
  cases spells with
  | plain held | marked held => exact document held

/-- The lines about a name. -/
def own (name : String) (current : List String) : List Line → List Line
  | [] => []
  | line :: lines =>
      if line.name? current = some name then line :: own name (line.currentAfter current) lines
      else own name (line.currentAfter current) lines

/-- A line changes the member of the name that it is about. -/
theorem add?_local {current : List String} {line : Line} {name : String}
    (about : line.name? current = some name) :
    ∃ change, IsLocal name change ∧ ∀ members, Draft.add? ⟨current, members⟩ line =
      (change members).map fun made => ⟨line.currentAfter current, made⟩ := by
  cases line with
  | table path =>
      obtain ⟨rest, rfl⟩ : ∃ rest, path = name :: rest := List.head?_eq_some_iff.mp about
      exact ⟨_, openTable_local name rest, fun _ => rfl⟩
  | element path =>
      obtain ⟨rest, rfl⟩ : ∃ rest, path = name :: rest := List.head?_eq_some_iff.mp about
      exact ⟨_, openElement_local name rest, fun _ => rfl⟩
  | pair path value =>
      cases current with
      | nil =>
          obtain ⟨rest, rfl⟩ : ∃ rest, path = name :: rest := List.head?_eq_some_iff.mp about
          exact ⟨_, put_local true name rest value, fun _ => rfl⟩
      | cons first rest =>
          obtain rfl : first = name := Option.some.inj about
          exact ⟨_, within_local (fun members => put true members path value) first rest,
            fun _ => rfl⟩

/-- The draft of one name alone goes with the draft of all: it has the same member of that name,
and keys that are about that name belong to the same table. -/
structure GoesWith (name : String) (alone all : Draft) : Prop where
  member : Tree.member? alone.members name = Tree.member? all.members name
  current : all.current = [] ∨ all.current.head? = some name → alone.current = all.current

/-- What a line does to a draft of its name does not depend on the lines of other names. -/
private theorem GoesWith.add?_eq {name : String} {alone all : Draft} {line : Line}
    (goesWith : GoesWith name alone all) (about : line.name? all.current = some name) :
    alone.add? line = Draft.add? ⟨all.current, alone.members⟩ line := by
  cases line with
  | table | element => rfl
  | pair path value =>
      have current : alone.current = all.current := by
        refine goesWith.current ?_
        cases empty : all.current with
        | nil => exact .inl rfl
        | cons first rest =>
            rw [Line.name?, empty] at about
            exact .inr about
      rw [← current]

/-- A line about a name does the same to the draft of that name alone, and nothing to the
members of other names. -/
private theorem GoesWith.add? {name : String} {alone all next : Draft} {line : Line}
    (goesWith : GoesWith name alone all) (about : line.name? all.current = some name)
    (added : alone.add? line = some next) :
    ∃ made, all.add? line = some made ∧ made.current = line.currentAfter all.current ∧
      GoesWith name next made ∧ ∀ other, other ≠ name →
        Tree.member? made.members other = Tree.member? all.members other := by
  obtain ⟨change, ⟨step, isLocal⟩, adds⟩ := add?_local about
  rw [goesWith.add?_eq about, adds, isLocal, goesWith.member, Option.map_map,
    Option.map_eq_some_iff] at added
  obtain ⟨tree, stepped, rfl⟩ := added
  refine ⟨⟨line.currentAfter all.current, setMember all.members name tree⟩, ?_, rfl, ⟨?_, ?_⟩, ?_⟩
  · have same : all = ⟨all.current, all.members⟩ := rfl
    rw [same, adds, isLocal, stepped]
    rfl
  · exact (member?_setMember_self ..).trans (member?_setMember_self ..).symm
  · exact fun _ => rfl
  · exact fun other different => member?_setMember_of_ne different ..

/-- A line about one name leaves the drafts of the others as they were. -/
private theorem GoesWith.of_other {name other : String} {alone all made : Draft} {line : Line}
    (goesWith : GoesWith other alone all) (different : other ≠ name)
    (about : line.name? all.current = some name)
    (current : made.current = line.currentAfter all.current)
    (member : Tree.member? made.members other = Tree.member? all.members other) :
    GoesWith other alone made where
  member := goesWith.member.trans member.symm
  current := by
    rw [current]
    cases line with
    | pair path value => exact goesWith.current
    | table path | element path =>
        intro isOther
        have head : path.head? = some name := about
        rcases isOther with empty | isOther
        · rw [Line.currentAfter] at empty
          rw [empty] at head
          cases head
        · exact absurd (Option.some.inj (isOther.symm.trans head)) different

/-- Every line with a path is about a name. -/
private theorem Line.exists_name {line : Line} (path : line.path ≠ []) (current : List String) :
    ∃ name, line.name? current = some name := by
  rw [← Option.isSome_iff_exists]
  cases line with
  | table path' | element path' =>
      rw [Line.name?, List.isSome_head?]
      exact path
  | pair path' =>
      rw [Line.name?, List.isSome_head?]
      exact List.append_ne_nil_of_right_ne_nil _ path

/-- The draft of the line's name has the line, and those of other names wait. -/
private theorem GoesWith.update {name : String} {alone : String → Draft} {all made next : Draft}
    {line : Line} (goesWith : ∀ other, GoesWith other (alone other) all)
    (about : line.name? all.current = some name)
    (current : made.current = line.currentAfter all.current) (mine : GoesWith name next made)
    (others : ∀ other, other ≠ name →
      Tree.member? made.members other = Tree.member? all.members other) (other : String) :
    GoesWith other (Function.update alone name next other) made := by
  by_cases same : other = name
  · subst same
    rwa [Function.update_self]
  · rw [Function.update_of_ne same]
    exact (goesWith other).of_other same about current (others other same)

private theorem own_cons_of_ne {name other : String} {current : List String} {line : Line}
    (about : line.name? current = some name) (different : other ≠ name) (lines : List Line) :
    own other current (line :: lines) = own other (line.currentAfter current) lines := by
  rw [own, about, if_neg fun same => different (Option.some.inj same).symm]

/-- If the lines of every name can be added to its draft, all lines can be added, and every name
has in the end what its own lines make of it. -/
private theorem foldlM_of_own {lines : List Line} (named : ∀ line ∈ lines, line.path ≠ [])
    {all : Draft} {alone last : String → Draft} (goesWith : ∀ name, GoesWith name (alone name) all)
    (each : ∀ name, (own name all.current lines).foldlM Draft.add? (alone name) =
      some (last name)) :
    ∃ made, lines.foldlM Draft.add? all = some made ∧
      ∀ name, Tree.member? made.members name = Tree.member? (last name).members name := by
  induction lines generalizing all alone with
  | nil =>
      refine ⟨all, rfl, fun name => ?_⟩
      have ended : alone name = last name := Option.some.inj (each name)
      rw [← ended]
      exact (goesWith name).member.symm
  | cons line lines inductionHypothesis =>
      obtain ⟨name, about⟩ := Line.exists_name (named line List.mem_cons_self) all.current
      have mine := each name
      rw [own, if_pos about, List.foldlM_cons, Option.bind_eq_bind,
        Option.bind_eq_some_iff] at mine
      obtain ⟨next, added, ended⟩ := mine
      obtain ⟨made, addedToAll, current, goesWithNext, others⟩ := (goesWith name).add? about added
      have later : ∀ other, (own other made.current lines).foldlM Draft.add?
          (Function.update alone name next other) = some (last other) := by
        intro other
        rw [current]
        by_cases same : other = name
        · subst same
          rwa [Function.update_self]
        · rw [Function.update_of_ne same, ← own_cons_of_ne about same]
          exact each other
      obtain ⟨final, folded, members⟩ :=
        inductionHypothesis (fun line there => named line (List.mem_cons_of_mem _ there))
          (GoesWith.update goesWith about current goesWithNext others) later
      refine ⟨final, ?_, members⟩
      rw [List.foldlM_cons, addedToAll, Option.bind_eq_bind, Option.bind_some, folded]

/-- Lines make a table if the lines of every name do, and every name has in it what its own
lines make. -/
theorem ofLines?_of_own {lines : List Line} (named : ∀ line ∈ lines, line.path ≠ [])
    {last : String → List (String × Toml)}
    (each : ∀ name, ofLines? (own name [] lines) = some (last name)) :
    ∃ members, ofLines? lines = some members ∧
      ∀ name, Toml.member? members name = Toml.member? (last name) name := by
  have folded : ∀ name, ∃ final,
      (own name [] lines).foldlM Draft.add? ⟨[], []⟩ = some final ∧
        toMembers final.members = last name := by
    intro name
    exact Option.map_eq_some_iff.mp (each name)
  choose final ended made using folded
  obtain ⟨all, addedToAll, members⟩ :=
    @foldlM_of_own lines named ⟨[], []⟩ (fun _ => ⟨[], []⟩) final
      (fun _ => ⟨rfl, fun _ => rfl⟩) ended
  refine ⟨toMembers all.members, ?_, fun name => ?_⟩
  · rw [ofLines?, addedToAll, Option.map_some]
  · rw [member?_toMembers, members, ← made, member?_toMembers]

end Turnstile.Toml
