/-
  LineShell/Proofs/Resolution.lean
  ================================
  **Searching a path entry by entry.**

  A search goes through the directories in order, asks the world about each candidate
  that can exist, and stops at the first that can be executed.  `SearchEnds` says how a
  search ends and which questions it has asked by then: a name is found at some place
  of the path, or it is missing from all of them, or it is empty, and then nothing is
  asked at all.

  The search along a path that is put together is the search along its first part and,
  if that finds nothing, the search along the rest (`World.resolved_append`,
  `World.search_append`).  So a directory that holds no program of the name can be put
  in or left out anywhere, and `resolve_searchesInOrder` collects what this means for
  the action.
-/
import LineShell.Proofs.Calls

namespace LineShell

/-! ### Reference answers -/

/-- Does the directory hold a program of this name? -/
def World.holds (w : World) (name directory : Text) : Bool :=
  !(candidate directory name).hasNul && w.executable (candidate directory name)

/-- The questions about all candidates that can exist, each of them answered no. -/
def denials (name : Text) (directories : List Text) : List Event :=
  ((directories.map (candidate · name)).filter (!·.hasNul)).map (.access · false)

/-- What a search for a name finds, and the questions that it asks. -/
inductive SearchEnds (w : World) (name : Text) (directories : List Text) :
    Option Text → List Event → Prop
  /-- The empty name is not asked about. -/
  | nameless (hname : name = []) : SearchEnds w name directories none []
  | missing (hname : name ≠ []) (hlacks : w.Lacks name directories) :
      SearchEnds w name directories none (denials name directories)
  | found {i : Nat} (hname : name ≠ []) (hi : i < directories.length)
      (hnul : (candidate directories[i] name).hasNul = false)
      (hexec : w.executable (candidate directories[i] name) = true)
      (hearlier : w.Lacks name (directories.take i)) :
      SearchEnds w name directories (some (candidate directories[i] name))
        (denials name (directories.take i) ++ [.access (candidate directories[i] name) true])

/-! ### A path put together -/

namespace World

variable {w : World} {name : Text}

theorem firstExecutable_append (p q : List Text) :
    firstExecutable w name (p ++ q) = (firstExecutable w name p).or (firstExecutable w name q) := by
  unfold firstExecutable
  rw [List.map_append, List.find?_append]

theorem resolved_append (p q : List Text) :
    w.resolved name (p ++ q) = (w.resolved name p).or (w.resolved name q) := by
  unfold resolved
  split
  · rfl
  · exact firstExecutable_append p q

/-- The first program is that of the first directory that holds one. -/
theorem firstExecutable_eq_head? (p : List Text) :
    firstExecutable w name p = (p.filter (w.holds name)).head?.map (candidate · name) := by
  unfold firstExecutable
  rw [List.find?_map, List.head?_filter]
  rfl

theorem resolved_congr {p q : List Text}
    (h : p.filter (w.holds name) = q.filter (w.holds name)) :
    w.resolved name p = w.resolved name q := by
  unfold resolved
  rw [firstExecutable_eq_head?, firstExecutable_eq_head?, h]

theorem Lacks.resolved_eq {p : List Text} (h : w.Lacks name p) : w.resolved name p = none := by
  unfold resolved
  split
  · rfl
  · exact firstExecutable_eq_none_iff.mpr h

/-- The questions go on only where nothing has been found. -/
theorem asked_append (p q : List Text) :
    w.asked name (p ++ q) =
      w.asked name p ++ if (firstExecutable w name p).isSome then [] else w.asked name q := by
  induction p with
  | nil => rfl
  | cons d rest ih =>
    rw [List.cons_append, asked, asked, ih]
    cases hnul : (candidate d name).hasNul with
    | true => rw [if_pos rfl, if_pos rfl, firstExecutable_of_nul hnul]
    | false =>
      cases hexec : w.executable (candidate d name) with
      | true => simp [firstExecutable, hnul, hexec]
      | false => simp [firstExecutable_of_refused hexec]

theorem search_append (p q : List Text) :
    w.search name (p ++ q) =
      w.search name p ++ if (w.resolved name p).isSome then [] else w.search name q := by
  unfold search resolved
  split
  · rfl
  · rw [asked_append, List.map_append]
    split <;> rfl

/-- A directory whose candidate cannot exist is passed over without a question. -/
theorem search_skip {d : Text} (h : (candidate d name).hasNul = true) (p q : List Text) :
    w.search name (p ++ d :: q) = w.search name (p ++ q) := by
  have hpassed : w.search name (d :: q) = w.search name q := by
    unfold search
    rw [asked, if_pos h]
  rw [search_append, search_append, hpassed]

theorem resolved_skip {d : Text} (h : (candidate d name).hasNul = true) (p q : List Text) :
    w.resolved name (p ++ d :: q) = w.resolved name (p ++ q) := by
  apply resolved_congr
  have hnone : w.holds name d = false := by simp [holds, h]
  rw [List.filter_append, List.filter_append, List.filter_cons_of_neg (by simp [hnone])]

end World

/-! ### The end of a search -/

section Ends

variable {w : World} {name : Text} {directories : List Text}

theorem SearchEnds.search_eq {found : Option Text} {events : List Event}
    (h : SearchEnds w name directories found events) :
    w.resolved name directories = found ∧ w.search name directories = events := by
  cases h with
  | nameless hname =>
    subst hname
    exact ⟨rfl, rfl⟩
  | missing hname hlacks => exact ⟨hlacks.resolved_eq, hlacks.search_eq hname⟩
  | @found i hname hi hnul hexec hearlier =>
    have hsplit : directories = directories.take i ++ directories[i] :: directories.drop (i + 1) := by
      rw [← List.drop_eq_getElem_cons hi, List.take_append_drop]
    constructor
    · rw [World.resolved_of_ne_nil hname]
      exact firstExecutable_eq_some_iff.mpr ⟨_, _, _, hsplit, rfl, hnul, hexec, hearlier⟩
    · have hlast : w.search name (directories[i] :: directories.drop (i + 1)) =
          [.access (candidate directories[i] name) true] := by
        rw [World.search, if_neg (by simpa using hname), World.asked, hnul, hexec]
        simp [hexec]
      conv => lhs; rw [hsplit]
      rw [World.search_append, hearlier.resolved_eq, hearlier.search_eq hname]
      exact congrArg (denials name (directories.take i) ++ ·) hlast

theorem exists_searchEnds (w : World) (name : Text) (directories : List Text) :
    ∃ found events, SearchEnds w name directories found events := by
  by_cases hname : name = []
  · exact ⟨_, _, .nameless hname⟩
  · rcases w.lacks_or_finds name directories with hlacks | ⟨program, hfinds⟩
    · exact ⟨_, _, .missing hname hlacks⟩
    · obtain ⟨front, d, back, rfl, rfl, hnul, hexec, hfront⟩ := hfinds
      have hi : front.length < (front ++ d :: back).length := by simp
      have hd : (front ++ d :: back)[front.length] = d := by simp
      refine ⟨_, _, .found hname hi ?_ ?_ ?_⟩
      · rw [hd]
        exact hnul
      · rw [hd]
        exact hexec
      · rw [List.take_left]
        exact hfront

end Ends

/-! ### The action -/

/-- What a search shows: how it ends, and the calls that it makes. -/
def Action.searched (w : World) (s : Session) (name : Text) (directories : List Text) :
    Except Fault (Option Text) × List Event :=
  let o := resolve name directories w s
  (o.result, o.trace.events)

theorem Action.searched_eq (w : World) (s : Session) (name : Text) (directories : List Text) :
    searched w s name directories = (.ok (w.resolved name directories), w.search name directories) := by
  unfold searched
  dsimp only
  rw [(resolve_spec w s name directories).1, resolve_events]

/-- What is owed by the search for a name. -/
structure SearchesInOrder (w : World) (s : Session) (name : Text) : Prop where
  /-- There is one ending that applies, and the search ends like that. -/
  ends : ∀ p found events, SearchEnds w name p found events ↔
    Action.searched w s name p = (.ok found, events)
  returns : ∀ p, ∃ found, (Action.searched w s name p).1 = .ok found
  append_found : ∀ p q c, (Action.searched w s name p).1 = .ok (some c) →
    Action.searched w s name (p ++ q) = Action.searched w s name p
  append_missing : ∀ p q, (Action.searched w s name p).1 = .ok none →
    Action.searched w s name (p ++ q) =
      ((Action.searched w s name q).1, (Action.searched w s name p).2 ++ (Action.searched w s name q).2)
  /-- An entry that cannot exist hides nothing behind it. -/
  nulEntry : ∀ p d q, d.hasNul = true →
    Action.searched w s name (p ++ d :: q) = Action.searched w s name (p ++ q)
  nameless : name = [] ∨ name.hasNul = true → ∀ p, (Action.searched w s name p).1 = .ok none
  /-- Entries that hold nothing can be put in or left out anywhere. -/
  idleEntries : ∀ p q, p.filter (w.holds name) = q.filter (w.holds name) →
    (Action.searched w s name p).1 = (Action.searched w s name q).1

theorem candidate_hasNul (d name : Text) :
    (candidate d name).hasNul = (d.hasNul || name.hasNul) := by
  have hslash : Symbol.is '\x00' (.char '/') = false := by decide
  simp [candidate, Text.hasNul, Text.ofString, hslash]

/-- A path is searched entry by entry, whatever is wrong with single entries. -/
theorem resolve_searchesInOrder (w : World) (s : Session) (name : Text) :
    SearchesInOrder w s name := by
  constructor
  case ends =>
    intro p found events
    rw [Action.searched_eq]
    constructor
    · intro h
      obtain ⟨rfl, rfl⟩ := h.search_eq
      rfl
    · intro h
      obtain ⟨found', events', h'⟩ := exists_searchEnds w name p
      obtain ⟨rfl, rfl⟩ := h'.search_eq
      obtain ⟨hfound, rfl⟩ := Prod.mk.inj h
      obtain rfl := Except.ok.inj hfound
      exact h'
  case returns =>
    intro p
    exact ⟨w.resolved name p, congrArg Prod.fst (Action.searched_eq w s name p)⟩
  case append_found =>
    intro p q c h
    simp only [Action.searched_eq, Except.ok.injEq] at h ⊢
    rw [World.resolved_append, World.search_append, h]
    simp
  case append_missing =>
    intro p q h
    simp only [Action.searched_eq, Except.ok.injEq] at h ⊢
    rw [World.resolved_append, World.search_append, h]
    simp
  case nulEntry =>
    intro p d q hd
    have hnul : (candidate d name).hasNul = true := by simp [candidate_hasNul, hd]
    rw [Action.searched_eq, Action.searched_eq, World.resolved_skip hnul, World.search_skip hnul]
  case nameless =>
    intro hname p
    rw [Action.searched_eq]
    refine congrArg Except.ok ?_
    rcases hname with rfl | hnul
    · rfl
    · apply World.Lacks.resolved_eq
      intro d _
      exact Or.inl (by simp [candidate_hasNul, hnul])
  case idleEntries =>
    intro p q h
    rw [Action.searched_eq, Action.searched_eq, World.resolved_congr h]

/-- The empty name is a case of its own: `/bin/` could be asked about and is not. -/
theorem emptyName_asks_nothing :
    let search := Action.searched .empty (.start defaultPath) [] defaultPath
    search.1 = .ok none ∧ search.2 ≠ denials [] defaultPath := by
  intro search
  exact ⟨rfl, by decide⟩

end LineShell
