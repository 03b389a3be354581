import Mathlib.Data.List.Basic
import SmellScan.Regex.Parser

/-!
# Turns are enough

No reader puts back what it has taken (`Within`), and the readers that call each other take a token
before they come to themselves again (`Enough.sequence_next`). So the turns that a pattern is given
are enough, however its groups are nested (`parse_ne_tooDeep`).

What a reader is put together from is tagged for `grind`, which follows the reader through its
steps.
-/

namespace SmellScan.Regex

open Reader

variable {α β : Type} {r : Reader α} {f : α → Reader β} {p : Progress} {n m : ℕ}

/-! ## Characters that are left -/

/-- How many characters are left of a pattern. -/
def Source.left (s : Source) : ℕ :=
  s.rest.length + (s.next.map (·.chars.length)).getD 0

/-- A reader that begins with the progress `p` leaves at most `n` characters, and does not run out
of turns. -/
def LeavesFrom (p : Progress) (n : ℕ) (r : Reader α) : Prop :=
  match r.run p with
  | .ok (_, p') => p'.source.left ≤ n
  | .error fault => fault ≠ .tooDeep

/-- A reader that finds at most `n` characters leaves at most `n`, and does not run out of turns. -/
def Within (n : ℕ) (r : Reader α) : Prop :=
  ∀ p, p.source.left ≤ n → LeavesFrom p n r

theorem LeavesFrom.bind (hr : LeavesFrom p n r)
    (hf : ∀ a p', p'.source.left ≤ n → LeavesFrom p' m (f a)) : LeavesFrom p m (r >>= f) := by
  unfold LeavesFrom at *
  rw [StateT.run_bind]
  cases hrun : r.run p with
  | error fault =>
    rw [hrun] at hr
    exact hr
  | ok result =>
    rw [hrun] at hr
    exact hf result.1 result.2 hr

theorem LeavesFrom.mono (h : LeavesFrom p n r) (hle : n ≤ m) : LeavesFrom p m r := by
  rw [← bind_pure r]
  exact h.bind fun a p' hp' => Nat.le_trans hp' hle

@[grind ←]
theorem Within.bind (hr : Within n r) (hf : ∀ a, Within n (f a)) : Within n (r >>= f) :=
  fun p hp => (hr p hp).bind fun a => hf a

@[grind .]
theorem within_pure (a : α) : Within n (pure a) := fun _ hp => hp

@[grind .]
theorem within_throw {fault : Fault} (h : fault ≠ .tooDeep) : Within n (throw fault : Reader α) :=
  fun _ _ => h

@[grind .]
theorem within_failAt (words : String) (place : ℕ) : Within n (failAt words place : Reader α) :=
  within_throw (by simp)

@[grind ←]
theorem Within.get_bind {f : Progress → Reader α}
    (h : ∀ p, p.source.left ≤ n → Within n (f p)) : Within n (get >>= f) :=
  fun p hp => h p hp p hp

@[grind .]
theorem within_set (hp : p.source.left ≤ n) : Within n (set p) := fun _ _ => hp

@[grind ←]
theorem within_modify {change : Progress → Progress} (h : ∀ p, (change p).source = p.source) :
    Within n (modify change) :=
  fun p hp => Nat.le_trans (Nat.le_of_eq (congrArg Source.left (h p))) hp

@[grind .]
theorem within_fail (words : String) (back : ℕ) : Within n (fail words back : Reader α) :=
  .get_bind fun _ _ => within_failAt _ _

/-! ## Tokens -/

@[grind .]
theorem within_peek : Within n peek := fun _ hp => hp

@[grind .]
theorem within_place : Within n place := fun _ hp => hp

@[grind .]
theorem within_left : Within n left := fun _ hp => hp

theorem left_of_ahead {place : ℕ} {cs : List Char} {source : Source}
    (h : Source.ahead place cs = .ok source) : source.left = cs.length := by
  unfold Source.ahead at h
  split at h <;> cases h <;> rfl

theorem ne_tooDeep_of_ahead {place : ℕ} {cs : List Char} {fault : Fault}
    (h : Source.ahead place cs = .error fault) : fault ≠ .tooDeep := by
  unfold Source.ahead at h
  split at h <;> cases h
  simp

theorem Token.length_pos (t : Token) : 0 < t.chars.length := by
  cases t <;> simp [Token.chars]

theorem leavesFrom_take_of_advance
    (hleft : ∀ source, p.source.advance = .ok source → source.left ≤ n)
    (hfault : ∀ fault, p.source.advance = .error fault → fault ≠ .tooDeep) :
    LeavesFrom p n take := by
  have hread : LeavesFrom p n (liftM p.source.advance >>= fun source => do
      set { p with source }
      return p.source.next) := by
    cases h : p.source.advance with
    | error fault => exact hfault fault h
    | ok source => exact hleft source h
  exact hread

/-- A token that is taken is no longer left. -/
theorem leavesFrom_take {t : Token} (h : p.source.next = some t) :
    LeavesFrom p (p.source.left - 1) take := by
  have hadvance : p.source.advance =
      Source.ahead (p.source.place + t.chars.length) p.source.rest := by
    rw [Source.advance, h]
  have hleft : p.source.left = p.source.rest.length + t.chars.length := by
    rw [Source.left, h]
    rfl
  have hpos := t.length_pos
  rw [hleft]
  refine leavesFrom_take_of_advance (fun source hsource => ?_) fun fault hfault => ?_
  · rw [left_of_ahead (hadvance ▸ hsource)]
    omega
  · exact ne_tooDeep_of_ahead (hadvance ▸ hfault)

@[grind .]
theorem within_take : Within n take := by
  intro p hp
  cases h : p.source.next with
  | some t => exact (leavesFrom_take h).mono (by omega)
  | none =>
    have hadvance : p.source.advance = .ok p.source := by rw [Source.advance, h]
    refine leavesFrom_take_of_advance (fun source hsource => ?_) fun fault hfault => ?_
    · rwa [← Except.ok.inj (hadvance.symm.trans hsource)]
    · cases hadvance.symm.trans hfault

theorem LeavesFrom.peek_bind {f : Option Token → Reader α}
    (h : LeavesFrom p n (f p.source.next)) : LeavesFrom p n (peek >>= f) := h

/-- Behind a token that is taken fewer characters are left. -/
theorem LeavesFrom.take_bind {f : Option Token → Reader α} {t : Token} (hp : p.source.left ≤ n + 1)
    (h : p.source.next = some t) (hf : ∀ t, Within n (f t)) : LeavesFrom p n (take >>= f) :=
  ((leavesFrom_take h).mono (by omega)).bind hf

theorem left_pos {t : Token} (h : p.source.next = some t) : 0 < p.source.left := by
  have hpos := t.length_pos
  rw [Source.left, h, Option.map_some, Option.getD_some]
  omega

/-- Behind a character that is accepted fewer characters are left. -/
theorem Within.accept_bind {f : Bool → Reader α} {c : Char}
    (haccepted : ∀ m, n = m + 1 → Within m (f true)) (hother : Within n (f false)) :
    Within n (accept c >>= f) := by
  intro p hp
  unfold accept
  rw [bind_assoc]
  refine .peek_bind ?_
  split_ifs with h
  · obtain ⟨m, rfl⟩ := Nat.exists_eq_add_one_of_ne_zero (Nat.ne_zero_of_lt
      (Nat.lt_of_lt_of_le (left_pos h) hp))
    rw [bind_assoc]
    refine (LeavesFrom.take_bind hp h fun _ => ?_).mono (Nat.le_succ m)
    rw [pure_bind]
    exact haccepted m rfl
  · rw [pure_bind]
    exact hother p hp

@[grind .]
theorem within_accept (c : Char) : Within n (accept c) := by
  grind [accept]

@[grind .]
theorem within_takeWhile (test : Char → Bool) (count : ℕ) : Within n (takeWhile test count) := by
  induction count with
  | zero => grind [takeWhile]
  | succ count ih => grind [takeWhile]

theorem within_takeThrough (stop : Char) (what : String) (taken : List Char) (count : ℕ) :
    Within n (takeThrough stop what taken count) := by
  induction count generalizing taken with
  | zero => grind [takeThrough]
  | succ count ih => grind [takeThrough]

@[grind .]
theorem within_takeName (stop : Char) (what : String) : Within n (takeName stop what) := by
  grind [takeName, within_takeThrough]

/-! ## Escapes -/

section Escapes

variable (namedChar? : String → Option Char) (c : Char)

@[grind .]
theorem within_hexEscape (count : ℕ) : Within n (hexEscape c count) := by
  grind [hexEscape, badEscape]

@[grind .]
theorem within_namedEscape : Within n (namedEscape namedChar?) := by
  grind [namedEscape]

@[grind .]
theorem within_octalEscape (digits : List Char) : Within n (octalEscape digits) := by
  grind [octalEscape]

@[grind .]
theorem within_characterEscape : Within n (characterEscape namedChar? c) := by
  unfold characterEscape
  split <;> grind [badEscape]

@[grind .]
theorem within_setEscape : Within n (setEscape namedChar? c) := by
  grind [setEscape]

@[grind .]
theorem within_checkBehind (number : ℕ) : Within n (Reader.checkBehind number) := by
  grind [Reader.checkBehind]

@[grind .]
theorem within_groupEscape (digits : List Char) : Within n (groupEscape digits) := by
  grind [groupEscape]

@[grind .]
theorem within_numberEscape : Within n (numberEscape c) := by
  unfold numberEscape
  split_ifs
  · grind
  · refine .bind (within_takeWhile _ _) fun digits => ?_
    split
    · split_ifs
      · refine .bind (within_takeWhile _ _) fun digits => ?_
        split <;> grind
      · exact within_groupEscape _
    · exact within_groupEscape _

@[grind .]
theorem within_escape : Within n (escape namedChar? c) := by
  grind [escape]

end Escapes

/-! ## Brackets -/

@[grind .]
theorem within_takeFlag (others : List Char) (missing : String) :
    Within n (takeFlag others missing) := by
  grind [takeFlag]

@[grind .]
theorem within_addFlags (flag : Flag) (added : Flags) (count : ℕ) :
    Within n (addFlags flag added count) := by
  induction count generalizing flag added with
  | zero => grind [addFlags]
  | succ count ih => grind [addFlags]

theorem within_clearFlags (flag : Flag) (cleared : Flags) (count : ℕ) :
    Within n (clearFlags flag cleared count) := by
  induction count generalizing flag cleared with
  | zero => grind [clearFlags]
  | succ count ih => grind [clearFlags]

@[grind .]
theorem within_clearedFlags : Within n clearedFlags := by
  grind [clearedFlags, within_clearFlags]

@[grind .]
theorem within_flagGroup (added cleared : Flags) : Within n (flagGroup added cleared) := by
  grind [flagGroup]

@[grind .]
theorem within_flagOpening (flag : Flag) : Within n (flagOpening flag) := by
  unfold flagOpening
  refine .bind within_left fun count => .bind (within_addFlags flag [] _) fun result => ?_
  dsimp only
  split_ifs with hclosed
  · exact .bind (within_modify fun _ => rfl) fun _ => within_pure _
  all_goals grind

@[grind .]
theorem within_groupName (stop : Char) : Within n (groupName stop) := by
  grind [groupName]

@[grind .]
theorem within_groupNamed (name : String) : Within n (groupNamed name) := by
  grind [groupNamed]

@[grind .]
theorem within_nameBackref : Within n nameBackref := by
  grind [nameBackref]

theorem within_noteCondition (number back : ℕ) : Within n (noteCondition number back) := by
  grind [noteCondition]

@[grind .]
theorem within_conditionNumber (name : String) : Within n (conditionNumber name) := by
  unfold conditionNumber
  dsimp only
  split <;> grind [within_noteCondition]

@[grind .]
theorem within_condition : Within n condition := by
  grind [condition]

@[grind .]
theorem within_skipComment (begun count : ℕ) : Within n (skipComment begun count) := by
  induction count with
  | zero => grind [skipComment]
  | succ count ih => grind [skipComment]

@[grind .]
theorem within_unknownOpening (before : String) (t : Token) :
    Within n (unknownOpening before t : Reader α) := by
  grind [unknownOpening]

@[grind .]
theorem within_takeToken : Within n takeToken := by
  grind [takeToken]

@[grind .]
theorem within_namedOpening : Within n namedOpening := by
  grind [namedOpening]

@[grind .]
theorem within_behindOpening : Within n behindOpening := by
  grind [behindOpening]

@[grind .]
theorem within_markedOpening (begun : ℕ) : Within n (markedOpening begun) := by
  grind [markedOpening]

@[grind .]
theorem within_opening (begun : ℕ) : Within n (opening begun) := by
  grind [opening]

@[grind .]
theorem within_openGroup (name : Option String) : Within n (openGroup name) := by
  grind [openGroup]

@[grind .]
theorem within_closeGroup (number : ℕ) (width : List (Option Width) → Width) :
    Within n (closeGroup number width) := by
  grind [closeGroup]

@[grind .]
theorem within_closeBracket (begun : ℕ) : Within n (closeBracket begun) := by
  grind [closeBracket]

@[grind ←]
theorem Within.withinBehind (h : Within n r) : Within n (withinBehind r) := by
  unfold Reader.withinBehind
  refine .get_bind fun p _ => .bind (within_modify fun _ => rfl) fun _ => .bind h fun value => ?_
  exact .bind (within_modify fun _ => rfl) fun _ => within_pure value

/-! ## Sets and repetitions -/

section Pieces

variable (namedChar? : String → Option Char) (begun : ℕ)

@[grind .]
theorem within_setEntry (t : Token) : Within n (setEntry namedChar? t) := by
  cases t <;> grind [setEntry]

@[grind .]
theorem within_setRange (first last : Token) (low high : SetItem) :
    Within n (setRange first last low high) := by
  unfold setRange
  split <;> grind

@[grind .]
theorem within_setEntries (items : List SetItem) (count : ℕ) :
    Within n (setEntries namedChar? begun items count) := by
  induction count generalizing items with
  | zero => grind [setEntries]
  | succ count ih =>
    unfold setEntries
    refine within_take.bind fun first => ?_
    split
    · exact within_failAt _ _
    · split_ifs
      · exact within_pure items
      · refine .bind (within_setEntry namedChar? _) fun low => .bind (within_accept '-') fun _ => ?_
        grind

@[grind .]
theorem within_charSet : Within n (charSet namedChar? begun) := by
  grind [charSet]

@[grind .]
theorem within_repeatCount? (digits : List Char) : Within n (repeatCount? digits) := by
  grind [repeatCount?]

@[grind .]
theorem within_braces? : Within n braces? := by
  unfold braces?
  refine within_peek.bind fun next => ?_
  split_ifs
  · exact within_pure none
  · refine .get_bind fun before hbefore => within_place.bind fun begun =>
      within_left.bind fun count => .bind (within_takeWhile isDigit count) fun low =>
        .bind (within_accept ',') fun comma => ?_
    dsimp only
    split_ifs <;> grind

@[grind .]
theorem within_repeatBounds? (c : Char) : Within n (repeatBounds? c) := by
  unfold repeatBounds?
  split <;> grind

@[grind .]
theorem within_repeatMode : Within n repeatMode := by
  grind [repeatMode]

@[grind .]
theorem within_repetition (c : Char) (done : List Node) : Within n (repetition begun c done) := by
  unfold repetition
  refine .bind (within_repeatBounds? c) fun bounds => ?_
  split
  · exact within_pure _
  · split <;> grind

@[grind .]
theorem within_skipLine (count : ℕ) : Within n (skipLine count) := by
  induction count with
  | zero => grind [skipLine]
  | succ count ih => grind [skipLine]

@[grind .]
theorem within_piece (done : List Node) (t : Token) :
    Within n (piece namedChar? begun done t) := by
  unfold piece
  split <;> grind

@[grind .]
theorem within_isVerbose : Within n isVerbose := by
  grind [isVerbose]

end Pieces

/-! ## Parts -/

/-- So many turns are enough for the readers that call each other. Each token of a part takes one
turn, and one that opens a bracket takes three more: for the bracket, for the parts in it, and for
the first of them. -/
structure Enough (namedChar? : String → Option Char) (turns : ℕ) : Prop where
  alternatives (n : ℕ) (top verbose : Bool) (h : 4 * n + 3 ≤ turns) :
    Within n (Reader.alternatives namedChar? top verbose turns)
  parts (n : ℕ) (top verbose first : Bool) (h : 4 * n + 2 ≤ turns) :
    Within n (Reader.parts namedChar? top verbose first turns)
  sequence (n : ℕ) (verbose first : Bool) (done : List Node) (h : 4 * n + 1 ≤ turns) :
    Within n (Reader.sequence namedChar? verbose first done turns)
  bracket (n : ℕ) (verbose first : Bool) (begun : ℕ) (done : List Node)
      (h : 4 * n + 4 ≤ turns) :
    Within n (Reader.bracket namedChar? verbose first begun done turns)

namespace Enough

variable {namedChar? : String → Option Char} {turns : ℕ} {verbose first : Bool} {done : List Node}

theorem alternatives_next (h : Enough namedChar? turns) (top : Bool)
    (hturns : 4 * n + 3 ≤ turns + 1) :
    Within n (Reader.alternatives namedChar? top verbose (turns + 1)) := by
  unfold Reader.alternatives
  exact (h.parts n top verbose top (by omega)).bind fun _ => within_pure _

theorem parts_next (h : Enough namedChar? turns) (top : Bool)
    (hturns : 4 * n + 2 ≤ turns + 1) :
    Within n (Reader.parts namedChar? top verbose first (turns + 1)) := by
  unfold Reader.parts
  refine (h.sequence n verbose first [] (by omega)).bind fun part =>
    .accept_bind (fun m hm => ?_) (within_pure _)
  have hparts (verbose : Bool) := h.parts m top verbose false (by omega)
  grind

/-- A part ends before a token, or takes it and goes on with fewer characters left. -/
theorem sequence_next (h : Enough namedChar? turns) (hturns : 4 * n + 1 ≤ turns + 1) :
    Within n (Reader.sequence namedChar? verbose first done (turns + 1)) := by
  unfold Reader.sequence
  refine within_place.bind fun begun p hp => .peek_bind ?_
  split
  · exact within_pure _ p hp
  · exact within_pure _ p hp
  · exact within_pure _ p hp
  · rename_i t _ _ hnext
    obtain ⟨m, rfl⟩ := Nat.exists_eq_add_one_of_ne_zero (Nat.ne_zero_of_lt
      (Nat.lt_of_lt_of_le (left_pos hnext) hp))
    have hsequence (verbose : Bool) (done : List Node) :=
      h.sequence m verbose first done (by omega)
    have hbracket (verbose : Bool) := h.bracket m verbose first begun done (by omega)
    refine (LeavesFrom.take_bind hp hnext fun _ => ?_).mono (Nat.le_succ m)
    grind

theorem bracket_next (h : Enough namedChar? turns) (begun : ℕ)
    (hturns : 4 * n + 4 ≤ turns + 1) :
    Within n (Reader.bracket namedChar? verbose first begun done (turns + 1)) := by
  have halternatives (verbose : Bool) := h.alternatives n false verbose (by omega)
  have hsequence (verbose : Bool) := h.sequence n verbose false [] (by omega)
  unfold Reader.bracket
  refine (within_opening begun).bind fun kind => ?_
  cases kind with
  | comment => grind
  | backref number => grind
  | flags => grind
  | group name => grind
  | plain added cleared => grind
  | atomic => grind
  | look behind negated => grind
  | conditional number => grind

end Enough

theorem enough (namedChar? : String → Option Char) (turns : ℕ) : Enough namedChar? turns := by
  induction turns with
  | zero => constructor <;> intros <;> omega
  | succ turns ih =>
    exact {
      alternatives := fun _ top _ h => ih.alternatives_next top h
      parts := fun _ top _ _ h => ih.parts_next top h
      sequence := fun _ _ _ _ h => ih.sequence_next h
      bracket := fun _ _ _ begun _ h => ih.bracket_next begun h }

/-! ## Patterns -/

section Patterns

theorem bind_ne_tooDeep {x : Except Fault α} {g : α → Except Fault β} (hx : x ≠ .error .tooDeep)
    (hg : ∀ a, x = .ok a → g a ≠ .error .tooDeep) : x >>= g ≠ .error .tooDeep := by
  cases x with
  | error fault => exact fun h => hx (congrArg _ (Except.error.inj h))
  | ok a => exact hg a rfl

theorem checkBehind_ne_tooDeep (width : Width) : checkBehind width ≠ .error .tooDeep := by
  unfold checkBehind
  dsimp only
  split_ifs <;> simp

mutual

theorem Node.check_ne_tooDeep (groups : List (Option Width)) (flags : Flags) (node : Node) :
    node.check groups flags ≠ .error .tooDeep := by
  cases node with
  | branch parts => exact checkParts_ne_tooDeep groups flags parts
  | loop mode least most part =>
    rw [Node.check]
    split_ifs
    · simp
    · exact checkPart_ne_tooDeep groups flags part
  | group number added cleared part =>
    exact checkPart_ne_tooDeep groups (flags.within added cleared) part
  | atomic part => exact checkPart_ne_tooDeep groups flags part
  | conditional number yes no =>
    exact bind_ne_tooDeep (checkPart_ne_tooDeep groups flags yes) fun _ _ =>
      checkPart_ne_tooDeep groups flags no
  | look behind negated part =>
    rw [Node.check]
    split_ifs
    · exact bind_ne_tooDeep (checkBehind_ne_tooDeep _) fun _ _ =>
        checkPart_ne_tooDeep groups flags part
    · exact checkPart_ne_tooDeep groups flags part
  | literal | notLiteral | any | anchor | set | backref => exact fun h => nomatch h

theorem checkPart_ne_tooDeep (groups : List (Option Width)) (flags : Flags) (part : List Node) :
    checkPart groups flags part ≠ .error .tooDeep := by
  cases part with
  | nil => exact fun h => nomatch h
  | cons node part =>
    exact bind_ne_tooDeep (Node.check_ne_tooDeep groups flags node) fun _ _ =>
      checkPart_ne_tooDeep groups flags part

theorem checkParts_ne_tooDeep (groups : List (Option Width)) (flags : Flags)
    (parts : List (List Node)) : checkParts groups flags parts ≠ .error .tooDeep := by
  cases parts with
  | nil => exact fun h => nomatch h
  | cons part parts =>
    exact bind_ne_tooDeep (checkPart_ne_tooDeep groups flags part) fun _ _ =>
      checkParts_ne_tooDeep groups flags parts

end

theorem fixFlags_ne_tooDeep (flags : Flags) : fixFlags flags ≠ .error .tooDeep := by
  unfold fixFlags
  split_ifs <;> simp

theorem checkConditions_ne_tooDeep (groups : ℕ) (conditions : List (ℕ × ℕ)) :
    checkConditions groups conditions ≠ .error .tooDeep := by
  induction conditions with
  | nil => exact fun h => nomatch h
  | cons condition conditions ih =>
    unfold checkConditions
    split_ifs
    · simp
    · exact ih

/-- **A pattern is given enough turns**, however deeply its groups are nested. -/
theorem parse_ne_tooDeep (namedChar? : String → Option Char) (flags : Flags) (pattern : String) :
    parse namedChar? flags pattern ≠ .error .tooDeep := by
  unfold parse
  refine bind_ne_tooDeep (fun h => ne_tooDeep_of_ahead h rfl) fun source hsource => ?_
  have hread := (enough namedChar? (turnsFor pattern.toList.length)).alternatives
    pattern.toList.length true (flags.contains .verbose) (Nat.le_refl _) { source, flags }
    (Nat.le_of_eq (left_of_ahead hsource))
  refine bind_ne_tooDeep (fun h => ?_) fun result _ => ?_
  · rw [LeavesFrom, h] at hread
    exact hread rfl
  · refine bind_ne_tooDeep (fixFlags_ne_tooDeep _) fun fixed _ => ?_
    dsimp only
    split_ifs
    · exact fun h => nomatch h
    · exact bind_ne_tooDeep (checkConditions_ne_tooDeep _ _) fun _ _ =>
        bind_ne_tooDeep (checkPart_ne_tooDeep _ _ _) fun _ _ h => nomatch h

end Patterns

end SmellScan.Regex
