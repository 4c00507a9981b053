import Mathlib.Data.List.Nodup
import Turnstile.Proofs.Toml.Names

/-!
# The lines of a section

A section of settings is written under a header, as an inline table, or with its name in
front of every key (`SectionLines`). Whichever it is, the lines make a table of the settings
in their order (`SectionLines.ofLines?_eq`).
-/

namespace Turnstile.Toml

/-- Members as lines, with keys that start with a path. -/
def pairLines (start : List String) (members : List (String × Toml)) : List Line :=
  members.map fun member => .pair (start ++ [member.1]) member.2

/-- A section under its header. -/
def headerLines (part : String × List (String × Toml)) : List Line :=
  .table [part.1] :: pairLines [] part.2

/-- The lines that a section may be written in, with its members. -/
inductive SectionLines (name : String) : List Line → List (String × Toml) → Prop
  /-- `[name]` and a line for every member -/
  | header {held : List (String × Toml)} : SectionLines name (headerLines (name, held)) held
  /-- `name = { … }` -/
  | inline {held : List (String × Toml)} : SectionLines name [.pair [name] (.table held)] held
  /-- `name.key = value` for every member -/
  | dotted {held : List (String × Toml)} (nonempty : held ≠ []) :
      SectionLines name (pairLines [name] held) held

/-! ## What the lines make -/

open Toml.Tree

namespace Tree

theorem member?_of_new {members : Members} {name : String} (new : name ∉ members.map Prod.fst) :
    member? members name = none := by
  rw [member?, find?_of_new new, Option.map_none]

/-- A new name goes to the end. -/
theorem setMember_of_new {members : Members} {name : String} (new : name ∉ members.map Prod.fst)
    (tree : Tree) : setMember members name tree = members ++ [(name, tree)] := by
  induction members with
  | nil => rfl
  | cons first members inductionHypothesis =>
      obtain ⟨different, newLater⟩ := not_or.mp (mt List.mem_cons.mpr new)
      rw [setMember, if_neg (Ne.symm different), inductionHypothesis newLater, List.cons_append]

/-- Members as they are built, each a value. -/
def ofMembers (members : List (String × Toml)) : Members :=
  members.map fun member => (member.1, .value member.2)

theorem ofMembers_cons (member : String × Toml) (members : List (String × Toml)) :
    ofMembers (member :: members) = (member.1, .value member.2) :: ofMembers members :=
  rfl

theorem toMembers_ofMembers (members : List (String × Toml)) :
    toMembers (ofMembers members) = members := by
  induction members with
  | nil => rfl
  | cons member members inductionHypothesis =>
      rw [ofMembers_cons, toMembers, inductionHypothesis, toValue]

end Tree

/-- Keys that start with a path belong to a table, by what the document is around it. -/
def BelongsTo (current start : List String) (around : Members → Members) : Prop :=
  ∀ inner name value, Draft.add? ⟨current, around inner⟩ (.pair (start ++ [name]) value) =
    (put true inner [name] value).map fun made => ⟨current, around made⟩

private theorem member?_single (name : String) (tree : Tree) :
    Tree.member? [(name, tree)] name = some tree := by
  simp [Tree.member?]

private theorem setMember_single (name : String) (held tree : Tree) :
    setMember [(name, held)] name tree = [(name, tree)] :=
  if_pos rfl

/-- Behind a header, keys belong to the table that it opened. -/
private theorem belongsTo_header (name : String) :
    BelongsTo [name] [] fun inner => [(name, .table .header inner)] := by
  intro inner key value
  simp only [Draft.add?, within, member?_single, setMember_single, Option.map_map]
  rfl

/-- Keys behind a name belong to its table. -/
private theorem belongsTo_dotted (name : String) :
    BelongsTo [] [name] fun inner => [(name, .table .dotted inner)] := by
  intro inner key value
  have entered : put true [(name, .table .dotted inner)] [name, key] value =
      (put true inner [key] value).map fun made => [(name, .table .dotted made)] := by
    rw [put.eq_def]
    simp only [member?_single, setMember_single, decide_true]
  rw [Draft.add?, within, List.singleton_append, entered, Option.map_map]
  rfl

/-- Members are put at the end of the table that they belong to. -/
private theorem foldlM_pairLines {current start : List String} {around : Members → Members}
    (belongsTo : BelongsTo current start around) {members : List (String × Toml)} {held : Members}
    (distinct : (held.map Prod.fst ++ members.map Prod.fst).Nodup) :
    (pairLines start members).foldlM Draft.add? ⟨current, around held⟩ =
      some ⟨current, around (held ++ ofMembers members)⟩ := by
  induction members generalizing held with
  | nil =>
      rw [ofMembers, List.map_nil, List.append_nil]
      rfl
  | cons member members inductionHypothesis =>
      have new : member.1 ∉ held.map Prod.fst := fun there =>
        (List.nodup_append.mp distinct).2.2 _ there _ List.mem_cons_self rfl
      have added : Draft.add? ⟨current, around held⟩ (.pair (start ++ [member.1]) member.2) =
          some ⟨current, around (held ++ [(member.1, .value member.2)])⟩ := by
        rw [belongsTo]
        simp only [put, member?_of_new new, setMember_of_new new, Option.map_some]
      have later : ((held ++ [(member.1, Tree.value member.2)]).map Prod.fst ++
          members.map Prod.fst).Nodup := by
        simpa using distinct
      rw [pairLines, List.map_cons, List.foldlM_cons, added, Option.bind_eq_bind, Option.bind_some,
        ← pairLines, inductionHypothesis later, ofMembers_cons, List.append_assoc,
        List.singleton_append]

/-- However a section is written, its lines make a table of its members. -/
theorem SectionLines.ofLines?_eq {name : String} {lines : List Line}
    {held : List (String × Toml)} (sectionLines : SectionLines name lines held)
    (distinct : (held.map Prod.fst).Nodup) : ofLines? lines = some [(name, .table held)] := by
  cases sectionLines with
  | header =>
      have opened : Draft.add? ⟨[], []⟩ (.table [name]) =
          some ⟨[name], [(name, .table .header [])]⟩ := rfl
      have filled := @foldlM_pairLines _ _ _ (belongsTo_header name) held [] distinct
      rw [ofLines?, headerLines, List.foldlM_cons, opened, Option.bind_eq_bind, Option.bind_some,
        filled, Option.map_some, List.nil_append, toMembers, toValue, toMembers_ofMembers,
        toMembers]
  | inline => rfl
  | dotted nonempty =>
      cases held with
      | nil => exact absurd rfl nonempty
      | cons first held =>
          have opened : Draft.add? ⟨[], []⟩ (.pair [name, first.1] first.2) =
              some ⟨[], [(name, .table .dotted [(first.1, .value first.2)])]⟩ := rfl
          have filled := @foldlM_pairLines _ _ _ (belongsTo_dotted name) held
            [(first.1, .value first.2)] distinct
          rw [ofLines?, pairLines, List.map_cons, List.singleton_append, List.foldlM_cons, opened,
            Option.bind_eq_bind, Option.bind_some, ← pairLines, filled, Option.map_some,
            List.singleton_append, ← ofMembers_cons, toMembers, toValue, toMembers_ofMembers,
            toMembers]

/-! ## One section behind the other -/

/-- Behind a header, the members of its section are about its name. -/
private theorem own_pairLines (name part : String) (held : List (String × Toml))
    (lines : List Line) : own name [part] (pairLines [] held ++ lines) =
      (if part = name then pairLines [] held else []) ++ own name [part] lines := by
  induction held with
  | nil => simp [pairLines]
  | cons member held inductionHypothesis =>
      have about : (Line.pair ([] ++ [member.1]) member.2).name? [part] = some part := rfl
      rw [pairLines, List.map_cons, ← pairLines, List.cons_append, own, about]
      by_cases same : part = name
      · rw [if_pos (congrArg some same), if_pos same, Line.currentAfter, inductionHypothesis,
          if_pos same, List.cons_append]
      · rw [if_neg fun equal => same (Option.some.inj equal), if_neg same, Line.currentAfter,
          inductionHypothesis, if_neg same]

/-- Of sections behind each other, a name has the section of that name. -/
theorem own_headerLines (name : String) (current : List String)
    (sections : List (String × List (String × Toml))) :
    own name current (sections.flatMap headerLines) =
      (sections.filter fun part => part.1 = name).flatMap headerLines := by
  induction sections generalizing current with
  | nil => rfl
  | cons part sections inductionHypothesis =>
      have about : (Line.table [part.1]).name? current = some part.1 := rfl
      rw [List.flatMap_cons, headerLines, List.cons_append, own, about, Line.currentAfter,
        own_pairLines, inductionHypothesis]
      by_cases same : part.1 = name
      · rw [if_pos (congrArg some same), if_pos same,
          List.filter_cons_of_pos (by simpa using same), List.flatMap_cons, headerLines,
          List.cons_append]
      · rw [if_neg fun equal => same (Option.some.inj equal), if_neg same, List.nil_append,
          List.filter_cons_of_neg (by simpa using same)]

end Turnstile.Toml
