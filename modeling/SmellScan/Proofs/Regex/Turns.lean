import Mathlib.Data.List.Basic
import SmellScan.Regex.Matcher

/-!
# Matching goes forward

From a cursor a piece leads to cursors of the same text that do not stand before it (`LeadsTo`), and
what is behind the piece is asked there and nowhere else (`Forward`). This holds of all pieces
(`Node.forward_run`).

A turn of a repetition that does not go forward is its last, and so the text bounds the number of
turns. The number that `moreTurns` and `possessiveTurns` are given is no bound of its own: with it
they obey the equations of a repetition without one (`repeated_eq`, `repeatedFirst_eq`).
-/

namespace SmellScan.Regex

/-! ## Going forward -/

/-- A cursor stands at the place of another or behind it, in the same text. -/
structure Cursor.LeadsTo (s s' : Cursor) : Prop where
  place_le : s.place ≤ s'.place
  text_eq : s'.text = s.text

namespace Cursor

variable {s s' s'' : Cursor}

theorem LeadsTo.refl (s : Cursor) : s.LeadsTo s :=
  ⟨Nat.le_refl _, rfl⟩

theorem LeadsTo.trans (h : s.LeadsTo s') (h' : s'.LeadsTo s'') : s.LeadsTo s'' :=
  ⟨Nat.le_trans h.place_le h'.place_le, h'.text_eq.trans h.text_eq⟩

/-- The further a cursor stands, the less is left. -/
theorem LeadsTo.place_add (h : s.LeadsTo s') :
    s'.place + s'.rest.length = s.place + s.rest.length := by
  have hlength := congrArg List.length h.text_eq
  simpa [text, place] using hlength

end Cursor

/-- A matcher goes forward: it asks what is behind it at cursors to which its own leads, and has an
outcome from there only. -/
structure Forward (m : Cont → Cont) : Prop where
  congr : ∀ {k k' : Cont} {s : Cursor}, (∀ s', s.LeadsTo s' → k s' = k' s') → m k s = m k' s
  lands : ∀ {k : Cont} {s r : Cursor}, m k s = some r → ∃ s', s.LeadsTo s' ∧ k s' = some r

namespace Forward

variable {m m' : Cont → Cont}

theorem stop : Forward fun _ _ => none where
  congr := fun _ => rfl
  lands := by simp

/-- A matcher may depend on the cursor. -/
theorem ofCursor {m : Cursor → Cont → Cont} (hm : ∀ s, Forward (m s)) :
    Forward fun k s => m s k s where
  congr := fun h => (hm _).congr h
  lands := fun h => (hm _).lands h

/-- A change of the groups goes forward. -/
theorem move {f : Cursor → Cursor} (hf : ∀ s : Cursor, s.LeadsTo (f s)) :
    Forward fun k s => k (f s) where
  congr := fun h => h _ (hf _)
  lands := fun h => ⟨_, hf _, h⟩

theorem here : Forward fun k => k :=
  move Cursor.LeadsTo.refl

theorem comp (hm : Forward m) (hm' : Forward m') : Forward fun k => m (m' k) where
  congr := fun h => hm.congr fun _ hs => hm'.congr fun _ hs' => h _ (hs.trans hs')
  lands := by
    intro k s r h
    obtain ⟨s', hs, hland⟩ := hm.lands h
    obtain ⟨s'', hs', hk⟩ := hm'.lands hland
    exact ⟨s'', hs.trans hs', hk⟩

theorem ite {c : Cursor → Prop} [DecidablePred c] (hm : Forward m) (hm' : Forward m') :
    Forward fun k s => if c s then m k s else m' k s :=
  .ofCursor (m := fun s k s' => if c s then m k s' else m' k s') fun s => by
    by_cases hc : c s
    · simpa only [if_pos hc] using hm
    · simpa only [if_neg hc] using hm'

theorem orElse (hm : Forward m) (hm' : Forward m') :
    Forward fun k s => (m k s).orElse fun _ => m' k s where
  congr := by
    intro k k' s h
    rw [hm.congr h, hm'.congr h]
  lands := by
    intro k s r h
    cases hfirst : m k s with
    | none =>
      rw [hfirst] at h
      exact hm'.lands h
    | some r' =>
      rw [hfirst] at h
      exact hm.lands (hfirst.trans h)

/-- Only the first match counts. -/
theorem bind (hm : Forward m) : Forward fun k s => (m some s).bind k where
  congr := by
    intro k k' s h
    cases hfound : m some s with
    | none => rfl
    | some found =>
      obtain ⟨s', hs, hs'⟩ := hm.lands hfound
      cases hs'
      exact h _ hs
  lands := by
    intro k s r h
    obtain ⟨found, hfound, hk⟩ := Option.bind_eq_some_iff.1 h
    obtain ⟨s', hs, hs'⟩ := hm.lands hfound
    cases hs'
    exact ⟨_, hs, hk⟩

theorem step (test : ℕ → Bool) : Forward fun k s => s.step test k := by
  have hgo (s : Cursor) (c : Char) (rest : List Char) (h : s.rest = c :: rest) :
      s.LeadsTo { s with before := c :: s.before, rest } := by
    refine ⟨by simp [Cursor.place], ?_⟩
    simp [Cursor.text, h]
  constructor
  · intro k k' s h
    unfold Cursor.step
    cases hrest : s.rest with
    | nil => rfl
    | cons c rest =>
      dsimp only
      rw [h _ (hgo s c rest hrest)]
  · intro k s r h
    unfold Cursor.step at h
    cases hrest : s.rest with
    | nil =>
      rw [hrest] at h
      cases h
    | cons c rest =>
      rw [hrest] at h
      dsimp only at h
      split_ifs at h
      exact ⟨_, hgo s c rest hrest, h⟩

end Forward

/-! ## Repetitions -/

section Loops

variable {body : Cont → Cont} (hbody : Forward body)

include hbody

theorem forward_turns (count : ℕ) : Forward (turns body count) := by
  induction count with
  | zero => exact .here
  | succ count ih => exact hbody.comp ih

theorem forward_moreTurns (isGreedy : Bool) (fuel : ℕ) (room last : Option ℕ) :
    Forward fun k => moreTurns body isGreedy k fuel room last := by
  induction fuel generalizing room last with
  | zero => exact .here
  | succ fuel ih =>
    -- what a turn is matched with behind it depends on the place where the turn begins
    have hturn : Forward fun k s =>
        body (moreTurns body isGreedy k fuel (room.map (· - 1)) (some s.place)) s :=
      .ofCursor fun s => hbody.comp (ih _ _)
    have hmore : Forward fun k s => if mayTurn room last s = true then
        body (moreTurns body isGreedy k fuel (room.map (· - 1)) (some s.place)) s else none :=
      hturn.ite .stop
    cases isGreedy with
    | false => exact .orElse .here hmore
    | true => exact hmore.orElse .here

theorem leadsTo_possessiveTurns (fuel : ℕ) (room last : Option ℕ) (s : Cursor) :
    s.LeadsTo (possessiveTurns body fuel room last s) := by
  induction fuel generalizing room last s with
  | zero => exact .refl s
  | succ fuel ih =>
    rw [possessiveTurns]
    split_ifs
    · cases hturn : body some s with
      | none => exact .refl s
      | some found =>
        obtain ⟨s', hs, hs'⟩ := hbody.lands hturn
        cases hs'
        exact hs.trans (ih _ _ _)
    · exact .refl s

theorem forward_repeated (isGreedy : Bool) (room last : Option ℕ) :
    Forward fun k => repeated body isGreedy k room last :=
  .ofCursor (m := fun s k => moreTurns body isGreedy k (s.rest.length + 1) room last)
    fun _ => forward_moreTurns hbody _ _ _ _

theorem forward_firstTurns (count : ℕ) : Forward fun k s => (firstTurns body count s).bind k := by
  induction count with
  | zero => exact .here
  | succ count ih =>
    have hsplit : (fun (k : Cont) s => (firstTurns body (count + 1) s).bind k) =
        fun k s => (body some s).bind fun s' => (firstTurns body count s').bind k := by
      funext k s
      rw [firstTurns, Option.bind_assoc]
    rw [hsplit]
    exact hbody.bind.comp ih

theorem forward_loopTurns (mode : Mode) (least : ℕ) (most : Option ℕ) :
    Forward (loopTurns body mode least most) := by
  cases mode with
  | greedy => exact (forward_turns hbody least).comp (forward_repeated hbody _ _ _)
  | lazy => exact (forward_turns hbody least).comp (forward_repeated hbody _ _ _)
  | possessive =>
    exact (forward_firstTurns hbody least).comp
      (.move fun s => leadsTo_possessiveTurns hbody _ _ _ s)

end Loops

/-! ## Pieces -/

theorem forward_again (flags : Flags) (cs : List Char) : Forward fun k => again flags k cs := by
  induction cs with
  | nil => exact .here
  | cons c cs ih => exact (Forward.step _).comp ih

theorem leadsTo_withGroupsOf (s other : Cursor) : s.LeadsTo (s.withGroupsOf other) :=
  ⟨Nat.le_refl _, rfl⟩

variable (groups : List (Option Width))

mutual

/-- **All pieces go forward.** -/
theorem Node.forward_run : ∀ (node : Node) (flags : Flags), Forward (node.run groups flags)
  | .literal n, flags => .step (flags.sameChar n)
  | .notLiteral n, flags => .step (!flags.sameChar n ·)
  | .any, flags => .step fun n => flags.contains .dotAll || n != '\n'.toNat
  | .anchor a, flags => .ite .here .stop
  | .set negated items, flags => .step fun n => flags.inSet items n != negated
  | .branch parts, flags => forward_runBranch parts flags
  | .loop mode least most part, flags =>
    forward_loopTurns (forward_runPart part flags) mode least most
  | .group none added cleared part, flags => forward_runPart part _
  | .group (some number) added cleared part, flags => by
    have hopen : Forward fun k s => k (s.openGroup number) := .move fun s => ⟨Nat.le_refl _, rfl⟩
    have hclose : Forward fun k s => k (s.closeGroup number) := .move fun s => ⟨Nat.le_refl _, rfl⟩
    exact hopen.comp ((forward_runPart part _).comp hclose)
  | .atomic part, flags => (forward_runPart part flags).bind
  | .backref number, flags => by
    refine .ofCursor (m := fun s k s' => match s.group? number with
      | some (first, last) => again flags k ((s.text.drop first).take (last - first)) s'
      | none => none) fun s => ?_
    cases s.group? number with
    | none => exact .stop
    | some span => exact forward_again flags _
  | .conditional number yes no, flags =>
    (forward_runPart yes flags).ite (forward_runPart no flags)
  | .look behind negated part, flags => by
    let width := if behind then (partWidth groups part).1 else 0
    let found (s : Cursor) := (s.back? width).bind (runPart groups part flags some)
    refine .ofCursor (m := fun s k s' => match negated, found s with
      | false, some s'' => k (s'.withGroupsOf s'')
      | true, none => k s'
      | _, _ => none) fun s => ?_
    cases negated <;> cases found s
    · exact .stop
    · exact .move fun s' => leadsTo_withGroupsOf s' _
    · exact .here
    · exact .stop

theorem forward_runPart : ∀ (part : List Node) (flags : Flags),
    Forward (runPart groups part flags)
  | [], _ => .here
  | node :: part, flags => (Node.forward_run node flags).comp (forward_runPart part flags)

theorem forward_runBranch : ∀ (parts : List (List Node)) (flags : Flags),
    Forward (runBranch groups parts flags)
  | [], _ => .stop
  | part :: parts, flags => (forward_runPart part flags).orElse (forward_runBranch parts flags)

end

/-! ## The number of turns -/

section Number

variable {body : Cont → Cont} {fuel fuel' : ℕ} {room last : Option ℕ} {s : Cursor}

/-- So many turns are enough at a cursor: the text has fewer characters left, or the last turn did
not go forward. -/
def Suffices (fuel : ℕ) (last : Option ℕ) (s : Cursor) : Prop :=
  s.rest.length < fuel ∨ last = some s.place

/-- One turn that goes forward, or does not, leaves one turn less to be made. -/
theorem Suffices.next {s' : Cursor} (h : Suffices (fuel + 1) last s) (hlast : last ≠ some s.place)
    (hs : s.LeadsTo s') : Suffices fuel (some s.place) s' := by
  have hlength := hs.place_add
  have hplace := hs.place_le
  by_cases hsame : s.place = s'.place
  · exact .inr (congrArg some hsame)
  · have hleft := h.resolve_right hlast
    exact .inl (by omega)

theorem mayTurn_of_last : mayTurn room (some s.place) s = false := by
  simp [mayTurn]

theorem moreTurns_of_last (isGreedy : Bool) (k : Cont) (fuel : ℕ) :
    moreTurns body isGreedy k fuel room (some s.place) s = k s := by
  cases fuel with
  | zero => rfl
  | succ fuel => cases isGreedy <;> simp [moreTurns, mayTurn_of_last]

theorem possessiveTurns_of_last (fuel : ℕ) :
    possessiveTurns body fuel room (some s.place) s = s := by
  cases fuel with
  | zero => rfl
  | succ fuel => simp [possessiveTurns, mayTurn_of_last]

/-- Numbers of turns that are enough make no difference. -/
theorem moreTurns_congr (hbody : Forward body) (isGreedy : Bool) (k : Cont)
    (h : Suffices fuel last s) (h' : Suffices fuel' last s) :
    moreTurns body isGreedy k fuel room last s = moreTurns body isGreedy k fuel' room last s := by
  induction fuel generalizing fuel' room last s with
  | zero =>
    obtain rfl := h.resolve_left (Nat.not_lt_zero _)
    rw [moreTurns_of_last, moreTurns_of_last]
  | succ fuel ih =>
    by_cases hlast : last = some s.place
    · rw [hlast, moreTurns_of_last, moreTurns_of_last]
    · obtain ⟨fuel', rfl⟩ := Nat.exists_eq_add_of_le' (Nat.zero_lt_of_lt (h'.resolve_right hlast))
      have hturn : body (moreTurns body isGreedy k fuel (room.map (· - 1)) (some s.place)) s =
          body (moreTurns body isGreedy k fuel' (room.map (· - 1)) (some s.place)) s :=
        hbody.congr fun s' hs => ih (h.next hlast hs) (h'.next hlast hs)
      rw [moreTurns, moreTurns, hturn]

theorem possessiveTurns_congr (hbody : Forward body) (h : Suffices fuel last s)
    (h' : Suffices fuel' last s) :
    possessiveTurns body fuel room last s = possessiveTurns body fuel' room last s := by
  induction fuel generalizing fuel' room last s with
  | zero =>
    obtain rfl := h.resolve_left (Nat.not_lt_zero _)
    rw [possessiveTurns_of_last, possessiveTurns_of_last]
  | succ fuel ih =>
    by_cases hlast : last = some s.place
    · rw [hlast, possessiveTurns_of_last, possessiveTurns_of_last]
    · obtain ⟨fuel', rfl⟩ := Nat.exists_eq_add_of_le' (Nat.zero_lt_of_lt (h'.resolve_right hlast))
      rw [possessiveTurns, possessiveTurns]
      cases hturn : body some s with
      | none => rfl
      | some found =>
        obtain ⟨s', hs, hs'⟩ := hbody.lands hturn
        cases hs'
        dsimp only
        rw [ih (h.next hlast hs) (h'.next hlast hs)]

/-- **The number of turns is no bound**: behind a turn a repetition goes on as it began. -/
theorem repeated_eq (hbody : Forward body) (isGreedy : Bool) (k : Cont) (room last : Option ℕ)
    (s : Cursor) :
    repeated body isGreedy k room last s =
      let more := fun _ =>
        if mayTurn room last s then
          body (repeated body isGreedy k (room.map (· - 1)) (some s.place)) s
        else none
      if isGreedy then (more ()).orElse fun _ => k s else (k s).orElse more := by
  by_cases hlast : last = some s.place
  · subst hlast
    rw [repeated, moreTurns_of_last, mayTurn_of_last]
    cases isGreedy <;> simp
  · have henough : Suffices (s.rest.length + 1) last s := .inl (Nat.lt_succ_self _)
    have hturn : body (moreTurns body isGreedy k s.rest.length (room.map (· - 1))
        (some s.place)) s = body (repeated body isGreedy k (room.map (· - 1)) (some s.place)) s :=
      hbody.congr fun s' hs =>
        moreTurns_congr hbody isGreedy k (henough.next hlast hs) (.inl (Nat.lt_succ_self _))
    rw [repeated, moreTurns, hturn]

theorem repeatedFirst_eq (hbody : Forward body) (room last : Option ℕ) (s : Cursor) :
    repeatedFirst body room last s =
      if mayTurn room last s then
        ((body some s).map (repeatedFirst body (room.map (· - 1)) (some s.place))).getD s
      else s := by
  by_cases hlast : last = some s.place
  · subst hlast
    rw [repeatedFirst, possessiveTurns_of_last, mayTurn_of_last]
    rfl
  · have henough : Suffices (s.rest.length + 1) last s := .inl (Nat.lt_succ_self _)
    rw [repeatedFirst, possessiveTurns]
    cases hturn : body some s with
    | none => rfl
    | some found =>
      obtain ⟨s', hs, hs'⟩ := hbody.lands hturn
      cases hs'
      dsimp only [Option.map_some, Option.getD_some]
      rw [possessiveTurns_congr hbody (henough.next hlast hs) (.inl (Nat.lt_succ_self _))]
      rfl

end Number

end SmellScan.Regex
