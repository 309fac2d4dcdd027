/-
  LineShell/Proofs/Stability.lean
  ===============================
  **A configuration is its own form.**

  The fields of a configuration may be given in many forms: a search path as one text, a
  history length as a decimal text, a history file by way of a home directory.  Judging a
  field turns the form that is given into the one that is kept, and what is kept is left
  alone when it is judged again.

  For the history file this takes the work.  A path that has been read is normal
  (`FilePath.Normal`), and normal paths are read back from their text
  (`FilePath.Normal.parse_text`).  Putting a home directory in the place of its tilde keeps a
  path normal, and the result leads to no home directory any more, provided that the home
  directories themselves do not (`Homes.Anchored`).

  `ofFields_stable` puts the four fields together.  That the directories of a search path
  are texts needs no proof: whatever the items were, their texts are kept.
-/
import LineShell.Proofs.Startup
import LineShell.Proofs.Tokens

namespace LineShell

namespace FilePath

/-! ### Normal paths -/

/-- The root is one that texts start with, and the parts are proper parts. -/
structure Normal (p : FilePath) : Prop where
  root_eq : rootOf p.root = p.root
  root_slash : ∀ s ∈ p.root, Symbol.is '/' s = true
  parts_proper : ∀ part ∈ p.parts, isPart part = true ∧ ∀ s ∈ part, Symbol.is '/' s = false

theorem rootOf_cases (t : Text) :
    rootOf t = [] ∨ rootOf t = Text.ofString "/" ∨ rootOf t = Text.ofString "//" := by
  unfold rootOf
  split
  · exact Or.inl rfl
  · exact Or.inr (Or.inr rfl)
  · exact Or.inr (Or.inl rfl)

theorem parse_normal (t : Text) : (parse t).Normal where
  root_eq := by
    rcases rootOf_cases t with h | h | h <;> simp only [parse, h] <;> decide
  root_slash := by
    rcases rootOf_cases t with h | h | h <;> simp only [parse, h] <;> decide
  parts_proper part hpart := by
    obtain ⟨hpiece, hproper⟩ := List.mem_filter.mp hpart
    exact ⟨hproper, fun s hs => (Text.mem_of_mem_cutWhere hpiece s hs).1⟩

/-- Only the slashes at the front of a text make its root. -/
theorem rootOf_append {root body : Text} (hroot : ∀ s ∈ root, Symbol.is '/' s = true)
    (hbody : ∀ s ∈ body.head?, Symbol.is '/' s = false) : rootOf (root ++ body) = rootOf root := by
  have hnone : body.takeWhile (Symbol.is '/') = [] := by
    cases body with
    | nil => rfl
    | cons s body => rw [List.takeWhile_cons_of_neg (by simp [hbody s rfl])]
  have hall : root.takeWhile (Symbol.is '/') = root := List.takeWhile_eq_self_iff.mpr hroot
  unfold rootOf
  rw [List.takeWhile_append_of_pos hroot, hnone, List.append_nil, hall]

/-- Slashes at the front of a text add no part. -/
theorem parts_append {root : Text} (hroot : ∀ s ∈ root, Symbol.is '/' s = true) (body : Text) :
    (parse (root ++ body)).parts = (parse body).parts := by
  unfold parse
  dsimp only
  induction root with
  | nil => rfl
  | cons s root ih =>
    obtain ⟨hs, hroot⟩ := List.forall_mem_cons.mp hroot
    rw [List.cons_append, Text.cutWhere, if_pos hs, List.filter_cons_of_neg (by decide), ih hroot]

namespace Normal

variable {p : FilePath}

theorem parts_joined (h : p.Normal) :
    (parse (Text.joinWith (Text.ofString "/") p.parts)).parts = p.parts := by
  unfold parse
  dsimp only
  cases hparts : p.parts with
  | nil => decide
  | cons first rest =>
    have hslash : Symbol.is '/' (.char '/') = true := by decide
    have hfree : ∀ part ∈ first :: rest, ∀ s ∈ part, Symbol.is '/' s = false :=
      fun part hpart => (h.parts_proper part (hparts ▸ hpart)).2
    have hcut := Text.cutWhere_joinWith hslash hfree (List.cons_ne_nil first rest)
    have hall : (first :: rest).filter isPart = first :: rest :=
      List.filter_eq_self.mpr fun part hpart => (h.parts_proper part (hparts ▸ hpart)).1
    exact (congrArg (List.filter isPart) hcut).trans hall

theorem head?_joined (h : p.Normal) :
    ∀ s ∈ (Text.joinWith (Text.ofString "/") p.parts).head?, Symbol.is '/' s = false := by
  cases hparts : p.parts with
  | nil => simp [Text.joinWith]
  | cons first rest =>
    obtain ⟨hsome, hfirst⟩ := h.parts_proper first (hparts ▸ List.mem_cons_self)
    cases first with
    | nil => cases hsome
    | cons symbol first =>
      intro s hs
      obtain rfl : symbol = s := by
        cases rest <;> simpa [Text.joinWith] using hs
      exact hfirst symbol List.mem_cons_self

/-- A normal path is read back from its text. -/
theorem parse_text (h : p.Normal) : parse p.text = p := by
  unfold text
  split
  · next hempty =>
    obtain ⟨hroot, hparts⟩ : p.root = [] ∧ p.parts = [] := by simpa using hempty
    obtain ⟨root, parts⟩ := p
    obtain rfl : root = [] := hroot
    obtain rfl : parts = [] := hparts
    decide
  · have hroot : (parse (p.root ++ Text.joinWith (Text.ofString "/") p.parts)).root = p.root :=
      (rootOf_append h.root_slash h.head?_joined).trans h.root_eq
    have hparts : (parse (p.root ++ Text.joinWith (Text.ofString "/") p.parts)).parts = p.parts :=
      (parts_append h.root_slash _).trans h.parts_joined
    cases hparse : parse (p.root ++ Text.joinWith (Text.ofString "/") p.parts) with
    | mk root parts =>
      rw [hparse] at hroot hparts
      obtain rfl : root = p.root := hroot
      obtain rfl : parts = p.parts := hparts
      rfl

theorem text_ne_nil (h : p.Normal) : p.text ≠ [] := by
  intro hnil
  have hback := h.parse_text
  rw [hnil] at hback
  rw [← hback] at hnil
  revert hnil
  decide

end Normal

/-! ### Home directories -/

/-- The first component of a path is its root, if it has one. -/
def firstComponent (p : FilePath) : Option Text :=
  if p.root.isEmpty then p.parts.head? else some p.root

/-- The first component starts with a tilde. -/
def AtTilde (p : FilePath) : Prop :=
  ∃ account, p.firstComponent = some (.char '~' :: account)

/-- The path has a first component, and it does not start with a tilde. -/
def Anchored (p : FilePath) : Prop := p.firstComponent ≠ none ∧ ¬ p.AtTilde

end FilePath

/-- No home directory leads on to another one. -/
structure Homes.Anchored (homes : Homes) : Prop where
  user : (FilePath.parse homes.user).Anchored
  account : ∀ name home, homes.account name = some home → (FilePath.parse home).Anchored

namespace FilePath

variable {homes : Homes} {p q : FilePath}

/-- Absolute paths are anchored. -/
theorem anchored_of_slash {t : Text} (h : t.head? = some (.char '/')) : (parse t).Anchored := by
  have hroot : rootOf t ≠ [] := by
    intro hnil
    unfold rootOf at hnil
    split at hnil
    · next hnone =>
      obtain ⟨rest, rfl⟩ := List.head?_eq_some_iff.mp h
      rw [List.takeWhile_cons_of_pos (by decide)] at hnone
      cases hnone
    · cases hnil
    · cases hnil
  have hfirst : (parse t).firstComponent = some (rootOf t) := if_neg (by simpa [parse] using hroot)
  refine ⟨by simp [hfirst], ?_⟩
  rintro ⟨account, htilde⟩
  have heq : rootOf t = .char '~' :: account := Option.some.inj (hfirst.symm.trans htilde)
  have hslash := (parse_normal t).root_slash (.char '~') (by simp [parse, heq])
  revert hslash
  decide

theorem Normal.exists_of_atTilde (h : p.Normal) (htilde : p.AtTilde) :
    ∃ account rest, p = ⟨[], (.char '~' :: account) :: rest⟩ := by
  obtain ⟨account, hfirst⟩ := htilde
  obtain ⟨root, parts⟩ := p
  unfold firstComponent at hfirst
  split at hfirst
  · next hroot =>
    obtain rfl : root = [] := List.isEmpty_iff.mp hroot
    obtain ⟨rest, hrest⟩ := List.head?_eq_some_iff.mp hfirst
    obtain rfl : parts = _ := hrest
    exact ⟨account, rest, rfl⟩
  · obtain rfl : root = _ := Option.some.inj hfirst
    cases h.root_slash (.char '~') List.mem_cons_self

theorem expand_of_not_atTilde (h : ¬ p.AtTilde) : p.expand homes = .ok p := by
  obtain ⟨root, parts⟩ := p
  cases parts with
  | nil => rfl
  | cons first rest =>
    unfold expand
    dsimp only
    rw [if_neg]
    intro htilde
    obtain ⟨rfl, hhead⟩ : root = [] ∧ first.head? = some (.char '~') := by simpa using htilde
    obtain ⟨account, rfl⟩ := List.head?_eq_some_iff.mp hhead
    exact h ⟨account, rfl⟩

theorem homeOf_eq_ok {part home : Text} (h : homeOf homes part = .ok home) :
    home = homes.user ∨ ∃ account, homes.account account = some home := by
  unfold homeOf at h
  dsimp only at h
  split at h
  · exact Or.inl (Except.ok.inj h).symm
  · split at h
    · cases h
    · split at h
      · cases h
      · split at h
        · next found hfound => exact Or.inr ⟨_, Except.ok.inj h ▸ hfound⟩
        · cases h

theorem homeOf_anchored (hhomes : homes.Anchored) {part home : Text}
    (h : homeOf homes part = .ok home) : (parse home).Anchored := by
  rcases homeOf_eq_ok h with rfl | ⟨account, haccount⟩
  · exact hhomes.user
  · exact hhomes.account account home haccount

/-- What is appended to a path does not touch its first component. -/
theorem firstComponent_append (h : p.firstComponent ≠ none) (rest : List Text) :
    firstComponent ⟨p.root, p.parts ++ rest⟩ = p.firstComponent := by
  unfold firstComponent at h ⊢
  split
  · next hroot =>
    rw [if_pos hroot] at h
    cases hparts : p.parts with
    | nil => simp [hparts] at h
    | cons first parts => rfl
  · rfl

/-- An expanded path is normal and needs no more expanding. -/
theorem Normal.expand (hp : p.Normal) (hhomes : homes.Anchored) (h : p.expand homes = .ok q) :
    q.Normal ∧ ¬ q.AtTilde := by
  by_cases htilde : p.AtTilde
  · obtain ⟨account, rest, rfl⟩ := hp.exists_of_atTilde htilde
    cases hhome : homeOf homes (.char '~' :: account) with
    | error f => simp [FilePath.expand, hhome, bind, Except.bind] at h
    | ok home =>
      obtain rfl : (⟨(parse home).root, (parse home).parts ++ rest⟩ : FilePath) = q := by
        simpa [FilePath.expand, hhome, bind, Except.bind] using h
      have hnormal := parse_normal home
      obtain ⟨hfirst, hanchored⟩ := homeOf_anchored hhomes hhome
      constructor
      · refine ⟨hnormal.root_eq, hnormal.root_slash, fun part hpart => ?_⟩
        rcases List.mem_append.mp hpart with hpart | hpart
        · exact hnormal.parts_proper part hpart
        · exact hp.parts_proper part (List.mem_cons_of_mem _ hpart)
      · -- the home directory comes first, so its first component is that of the whole
        rintro ⟨account', htilde'⟩
        rw [firstComponent_append hfirst] at htilde'
        exact hanchored ⟨account', htilde'⟩
  · rw [expand_of_not_atTilde htilde] at h
    obtain rfl := Except.ok.inj h
    exact ⟨hp, htilde⟩

end FilePath

/-! ### The kept forms -/

namespace Config

variable {homes : Homes}

theorem itemTexts_texts (texts : List Text) : itemTexts (texts.map .text) = .ok texts := by
  have hmap : (texts.map Value.text).mapM Value.toText? = some texts := by
    induction texts with
    | nil => rfl
    | cons t rest ih => simp [ih, Value.toText?]
  rw [itemTexts, hmap]

/-- The value that stands for a history file. -/
def fileValue : Option FilePath → Value
  | none => .null
  | some p => .text p.text

/-- A history file that has been judged is none, or a normal path without a tilde. -/
theorem judgeHistoryFile_kept (hhomes : homes.Anchored) {v : Value} {file : Option FilePath}
    (h : judgeHistoryFile homes v = .ok (.ok file)) : ∀ p ∈ file, p.Normal ∧ ¬ p.AtTilde := by
  cases v with
  | null =>
    obtain rfl : none = file := by simpa [judgeHistoryFile] using h
    simp
  | text t =>
    unfold judgeHistoryFile at h
    dsimp only at h
    split at h
    · obtain rfl : none = file := by simpa using h
      simp
    · split at h
      · next p hexpand =>
        obtain rfl : some p = file := by simpa using h
        intro q hq
        obtain rfl := Option.mem_some_iff.mp hq
        exact (FilePath.parse_normal t).expand hhomes hexpand
      all_goals simp at h
  | _ => simp [judgeHistoryFile] at h

theorem judgeHistoryFile_fileValue {file : Option FilePath}
    (h : ∀ p ∈ file, p.Normal ∧ ¬ p.AtTilde) :
    judgeHistoryFile homes (fileValue file) = .ok (.ok file) := by
  cases file with
  | none => rfl
  | some p =>
    obtain ⟨hnormal, htilde⟩ := h p rfl
    unfold judgeHistoryFile fileValue
    dsimp only
    rw [if_neg (by simpa using hnormal.text_ne_nil), hnormal.parse_text,
      FilePath.expand_of_not_atTilde htilde]

theorem judgeHistoryLength_pos {v : Value} {n : Int}
    (h : judgeHistoryLength v = .ok (.ok n)) : 0 < n := by
  unfold judgeHistoryLength Count.positive at h
  cases hcount : Count.ofValue v with
  | error f =>
    rw [hcount] at h
    cases f <;> simp [bind, Except.bind] at h
  | ok m =>
    rw [hcount] at h
    by_cases hm : 0 < m
    · obtain rfl : m = n := by simpa [bind, Except.bind, hm] using h
      exact hm
    · simp [bind, Except.bind, hm] at h

theorem judgeHistoryLength_int {n : Int} (h : 0 < n) :
    judgeHistoryLength (.int n) = .ok (.ok n) := by
  simp [judgeHistoryLength, Count.positive, Count.ofValue, bind, Except.bind, h]

/-! ### The configuration -/

theorem assemble_eq_ok_iff {path : Except IssueKind (List Text)} {prompt : Except IssueKind Text}
    {file : Except IssueKind (Option FilePath)} {length : Except IssueKind Int} {c : Config} :
    assemble path prompt file length = .ok c ↔ path = .ok c.path ∧ prompt = .ok c.prompt ∧
      file = .ok c.historyFile ∧ length = .ok c.historyLength := by
  constructor
  · intro h
    unfold assemble at h
    split at h
    · obtain rfl := Except.ok.inj h
      exact ⟨rfl, rfl, rfl, rfl⟩
    · cases h
  · rintro ⟨rfl, rfl, rfl, rfl⟩
    rfl

/-- A configuration comes of fields that are all judged to be values. -/
theorem ofFields_eq_ok_iff {fields : List (Text × Value)} {c : Config} :
    ofFields homes fields = .ok c ↔
      judgeField fields .path default.path judgePath = .ok (.ok c.path) ∧
      judgeField fields .prompt default.prompt judgePrompt = .ok (.ok c.prompt) ∧
      judgeField fields .historyFile default.historyFile (judgeHistoryFile homes) =
        .ok (.ok c.historyFile) ∧
      judgeField fields .historyLength default.historyLength judgeHistoryLength =
        .ok (.ok c.historyLength) := by
  unfold ofFields
  rcases judgeField fields .path default.path judgePath with r | path
  · simp [Except.mapError, bind, Except.bind]
  rcases judgeField fields .prompt default.prompt judgePrompt with r | prompt
  · simp [Except.mapError, bind, Except.bind]
  rcases judgeField fields .historyFile default.historyFile (judgeHistoryFile homes) with r | file
  · simp [Except.mapError, bind, Except.bind]
  rcases judgeField fields .historyLength default.historyLength judgeHistoryLength with r | length
  · simp [Except.mapError, bind, Except.bind]
  simp [Except.mapError, bind, Except.bind, assemble_eq_ok_iff]

/-- What holds of the default and of all that is judged to be a value holds of a field. -/
theorem judgeField_kept {α : Type} {P : α → Prop} {fields : List (Text × Value)}
    {field : ConfigField} {default a : α} {judge : Value → Judged α}
    (h : judgeField fields field default judge = .ok (.ok a)) (hdefault : P default)
    (hjudge : ∀ v, judge v = .ok (.ok a) → P a) : P a := by
  unfold judgeField at h
  split at h
  · obtain rfl : default = a := by simpa using h
    exact hdefault
  · exact hjudge _ h

/-- What is owed to a configuration once it has been read. -/
structure Stable (homes : Homes) (c : Config) : Prop where
  length_pos : 1 ≤ c.historyLength
  file_not_atTilde : ∀ p, c.historyFile = some p →
    ∀ first, p.firstComponent = some first → first.head? ≠ some (.char '~')
  /-- Its own four fields give it back. -/
  rebuilt : ofFields homes c.toFields = .ok c

end Config

open Config in
/-- Whatever forms its fields were given in, a configuration is read back from itself. -/
theorem ofFields_stable {homes : Homes} {fields : List (Text × Value)} {c : Config}
    (hhomes : homes.Anchored) (h : ofFields homes fields = .ok c) : c.Stable homes := by
  obtain ⟨-, -, hfile, hlength⟩ := ofFields_eq_ok_iff.mp h
  have hpos : 0 < c.historyLength :=
    judgeField_kept hlength (by decide) fun _ => judgeHistoryLength_pos
  have hnone : ∀ p ∈ Config.default.historyFile, p.Normal ∧ ¬ p.AtTilde := by
    simp [Config.default]
  have hkept : ∀ p ∈ c.historyFile, p.Normal ∧ ¬ p.AtTilde :=
    judgeField_kept (P := fun file => ∀ p ∈ file, FilePath.Normal p ∧ ¬ FilePath.AtTilde p)
      hfile hnone fun _ => judgeHistoryFile_kept hhomes
  constructor
  case length_pos => exact hpos
  case file_not_atTilde =>
    intro p hp first hfirst hhead
    obtain ⟨account, rfl⟩ := List.head?_eq_some_iff.mp hhead
    exact (hkept p hp).2 ⟨account, hfirst⟩
  case rebuilt =>
    refine ofFields_eq_ok_iff.mpr ⟨?_, rfl, ?_, ?_⟩
    · exact congrArg Except.ok (itemTexts_texts c.path)
    · exact judgeHistoryFile_fileValue hkept
    · exact judgeHistoryLength_int hpos

/-! ### A configuration in many forms -/

/-- The user's home directory is the only one. -/
def Homes.ofUser (home : Text) : Homes := ⟨home, fun _ => none⟩

theorem Homes.anchored_ofUser {home : Text} (h : home.head? = some (.char '/')) :
    (ofUser home).Anchored where
  user := FilePath.anchored_of_slash h
  account _ _ hnone := nomatch hnone

open Config in
/-- The search path is a mapping, the history file goes to the home directory by a detour, and
    the history length is a text. -/
theorem mixedForms_stable :
    let homes := Homes.ofUser (Text.ofString "/home/me")
    let fields : List (Text × Value) :=
      [(Text.ofString "colour", .list [.null]),
       (Text.ofString "path", .mapping [(.text (Text.ofString "/a"), .null), (.int 5, .bool true)]),
       (Text.ofString "history_file", .text (Text.ofString "./~//.h/~")),
       (Text.ofString "history_length", .text (Text.ofString " +1_000.0"))]
    let c : Config := ⟨[Text.ofString "/a", Text.ofString "5"], defaultPrompt,
      some ⟨Text.ofString "/", [Text.ofString "home", Text.ofString "me", Text.ofString ".h",
        Text.ofString "~"]⟩, 1000⟩
    homes.Anchored ∧ ofFields homes fields = .ok c ∧ c.Stable homes := by
  intro homes fields c
  have hhomes : homes.Anchored := Homes.anchored_ofUser (by decide)
  have hfields : ofFields homes fields = .ok c := by decide +kernel
  exact ⟨hhomes, hfields, ofFields_stable hhomes hfields⟩

end LineShell
