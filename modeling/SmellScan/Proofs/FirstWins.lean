import Mathlib.Data.List.Basic
import Mathlib.Data.List.Nodup

/-!
# The first of each key

Several collections here take elements one after the other and keep the first of each key: findings
by file, line and smell, nested lines by line, code blocks by start line. What one of them holds is
the list of first elements (`firsts`) of all that came, in order (`foldl_addNew`). Taking firsts
commutes with whatever looks at keys alone (`firsts_filter`) and splits over appending
(`firsts_append`).
-/

namespace SmellScan

variable {α κ : Type} [DecidableEq κ] (key : α → κ)

/-- The elements that stand first of their key. -/
def firsts : List α → List α
  | [] => []
  | a :: as => a :: (firsts as).filter (key · ≠ key a)

/-- The elements held, with one more if its key is new. -/
def addNew (held : List α) (a : α) : List α :=
  if key a ∈ held.map key then held else held ++ [a]

/-- The elements whose keys are not held. -/
def strangers (held as : List α) : List α :=
  as.filter (key · ∉ held.map key)

theorem firsts_sublist (as : List α) : (firsts key as).Sublist as := by
  induction as with
  | nil => exact List.Sublist.slnil
  | cons a as ih => exact (List.filter_sublist.trans ih).cons_cons a

/-- Every key that comes is held. -/
theorem mem_map_firsts {k : κ} {as : List α} : k ∈ (firsts key as).map key ↔ k ∈ as.map key := by
  induction as with
  | nil => rfl
  | cons a as ih =>
    by_cases hk : k = key a
    · simp [firsts, hk]
    · simp only [List.mem_map] at ih
      simp only [firsts, List.map_cons, List.mem_cons, hk, false_or, List.mem_map, List.mem_filter,
        decide_eq_true_eq]
      rw [← ih]
      constructor
      · rintro ⟨b, ⟨hb, -⟩, rfl⟩
        exact ⟨b, hb, rfl⟩
      · rintro ⟨b, hb, rfl⟩
        exact ⟨b, ⟨hb, hk⟩, rfl⟩

/-- Every key is held once. -/
theorem nodup_map_firsts (as : List α) : ((firsts key as).map key).Nodup := by
  induction as with
  | nil => exact List.nodup_nil
  | cons a as ih =>
    refine List.nodup_cons.2 ⟨?_, (List.filter_sublist.map key).nodup ih⟩
    simp

theorem firsts_of_nodup {as : List α} (h : (as.map key).Nodup) : firsts key as = as := by
  induction as with
  | nil => rfl
  | cons a as ih =>
    obtain ⟨ha, has⟩ := List.nodup_cons.1 h
    rw [firsts, ih has, List.filter_eq_self.2]
    intro b hb
    have hne : key b ≠ key a := fun he => ha (he ▸ List.mem_map_of_mem hb)
    simpa using hne

/-- A test that fails at one key leaves nothing of that key to take out. -/
theorem filter_and_ne {p : α → Bool} {a : α} (hp : ∀ b, key b = key a → p b = false)
    (as : List α) : (as.filter fun b => p b && decide (key b ≠ key a)) = as.filter p := by
  refine List.filter_congr fun b _ => ?_
  by_cases hb : key b = key a
  · simp [hb, hp b hb]
  · simp [hb]

/-- What is held and what is new have all keys between them. -/
theorem mem_map_append_strangers {k : κ} {held as : List α} :
    k ∈ (held ++ strangers key held as).map key ↔ k ∈ held.map key ∨ k ∈ as.map key := by
  by_cases hk : k ∈ held.map key
  · simp [hk]
  · simp only [List.map_append, List.mem_append, hk, false_or, strangers, List.mem_map,
      List.mem_filter, decide_eq_true_eq]
    constructor
    · rintro ⟨a, ⟨ha, -⟩, rfl⟩
      exact ⟨a, ha, rfl⟩
    · rintro ⟨a, ha, rfl⟩
      exact ⟨a, ⟨ha, by simpa using hk⟩, rfl⟩

theorem strangers_strangers (held as : List α) :
    strangers key held (strangers key held as) = strangers key held as := by
  simp [strangers, List.filter_filter]

/-- **What looks at keys alone commutes with taking firsts.** -/
theorem firsts_filter (p : κ → Bool) (as : List α) :
    firsts key (as.filter fun a => p (key a)) = (firsts key as).filter fun a => p (key a) := by
  induction as with
  | nil => rfl
  | cons a as ih =>
    by_cases ha : p (key a) = true
    · simp only [List.filter_cons, ha, if_true, firsts, ih, List.filter_filter, Bool.and_comm]
    · have hp : ∀ b, key b = key a → p (key b) = false := fun b hb => by simpa [hb] using ha
      simp only [List.filter_cons, ha, Bool.false_eq_true, if_false, firsts, ih, List.filter_filter,
        filter_and_ne key hp]

theorem firsts_strangers (held as : List α) :
    firsts key (strangers key held as) = strangers key held (firsts key as) :=
  firsts_filter key (fun k => decide (k ∉ held.map key)) as

theorem firsts_firsts (as : List α) : firsts key (firsts key as) = firsts key as :=
  firsts_of_nodup key (nodup_map_firsts key as)

theorem firsts_append (as bs : List α) :
    firsts key (as ++ bs) = firsts key as ++ strangers key as (firsts key bs) := by
  induction as with
  | nil => simp [firsts, strangers]
  | cons a as ih =>
    simp only [strangers] at ih
    simp only [List.cons_append, firsts, ih, List.filter_append, List.filter_filter, List.map_cons,
      List.mem_cons, not_or, Bool.decide_and, strangers]

/-- **Elements that are added one after the other leave the firsts behind.** -/
theorem foldl_addNew (held as : List α) :
    as.foldl (addNew key) held = held ++ strangers key held (firsts key as) := by
  induction as generalizing held with
  | nil => simp [firsts, strangers]
  | cons a as ih =>
    rw [List.foldl_cons, ih, firsts, addNew, strangers, strangers]
    by_cases ha : key a ∈ held.map key
    · rw [if_pos ha, List.filter_cons_of_neg (by simpa using ha), List.filter_filter,
        filter_and_ne key fun b hb => by simp [hb, ha]]
    · rw [if_neg ha, List.filter_cons_of_pos (by simpa using ha), List.filter_filter,
        List.append_assoc, List.singleton_append]
      simp only [List.map_append, List.map_cons, List.map_nil, List.mem_append, List.mem_singleton,
        not_or, Bool.decide_and]

theorem foldl_addNew_firsts (as bs : List α) :
    bs.foldl (addNew key) (firsts key as) = firsts key (as ++ bs) := by
  simp only [foldl_addNew, firsts_append, strangers, mem_map_firsts]

/-- Whoever asks for a key gets the first element that came with it. -/
theorem find?_firsts (k : κ) (as : List α) :
    (firsts key as).find? (key · = k) = as.find? (key · = k) := by
  induction as with
  | nil => rfl
  | cons a as ih =>
    rw [firsts, List.find?_cons, List.find?_cons, List.find?_filter]
    by_cases ha : key a = k
    · simp [ha]
    · simp only [ha, decide_false, ← ih]
      congr 1
      funext b
      by_cases hb : key b = k
      · simp [hb, Ne.symm ha]
      · simp [hb]

theorem firsts_map {β : Type} (f : β → α) (bs : List β) :
    firsts key (bs.map f) = (firsts (fun b => key (f b)) bs).map f := by
  induction bs with
  | nil => rfl
  | cons b bs ih =>
    rw [List.map_cons, firsts, firsts, ih, List.filter_map, List.map_cons]
    rfl

/-- What comes several times leaves the firsts of one time. -/
theorem firsts_flatMap_of_forall_eq {β : Type} (feed : β → List α) {b : β} {bs : List β}
    (hne : bs ≠ []) (h : ∀ c ∈ bs, c = b) :
    firsts key (bs.flatMap feed) = firsts key (feed b) := by
  induction bs with
  | nil => exact absurd rfl hne
  | cons c cs ih =>
    obtain ⟨rfl, hcs⟩ := List.forall_mem_cons.1 h
    rw [List.flatMap_cons, firsts_append]
    by_cases hnil : cs = []
    · simp [hnil, strangers, firsts]
    · have hold : strangers key (feed c) (firsts key (feed c)) = [] := by
        refine List.filter_eq_nil_iff.2 fun a ha => ?_
        simpa using ⟨a, (firsts_sublist key (feed c)).subset ha, rfl⟩
      rw [ih hnil hcs, hold, List.append_nil]

/-- Keys that tell the same elements of a list apart give the same firsts. -/
theorem firsts_congr_key {κ' : Type} [DecidableEq κ'] {key' : α → κ'} {as : List α}
    (h : ∀ a ∈ as, ∀ b ∈ as, key a = key b ↔ key' a = key' b) :
    firsts key as = firsts key' as := by
  induction as with
  | nil => rfl
  | cons a as ih =>
    have htail : firsts key as = firsts key' as :=
      ih fun b hb c hc => h b (List.mem_cons_of_mem a hb) c (List.mem_cons_of_mem a hc)
    rw [firsts, firsts, htail]
    refine congrArg (a :: ·) (List.filter_congr fun b hb => ?_)
    have hmem : b ∈ a :: as := List.mem_cons_of_mem a ((firsts_sublist key' as).subset hb)
    simp only [ne_eq, h b hmem a List.mem_cons_self]

/-- An element that is first of its key comes from a place before which nothing of that key comes
from. -/
theorem exists_append_of_mem_firsts {β : Type} {f : β → Option α} {bs : List β} {a : α}
    (h : a ∈ firsts key (bs.filterMap f)) :
    ∃ before b after, bs = before ++ b :: after ∧ f b = some a ∧
      ∀ c ∈ before, ∀ a', f c = some a' → key a' ≠ key a := by
  induction bs with
  | nil => cases h
  | cons b bs ih =>
    cases hb : f b with
    | none =>
      rw [List.filterMap_cons_none hb] at h
      obtain ⟨before, c, after, rfl, hc, hfirst⟩ := ih h
      refine ⟨b :: before, c, after, rfl, hc, List.forall_mem_cons.2 ⟨fun a' ha' => ?_, hfirst⟩⟩
      simp [hb] at ha'
    | some a₀ =>
      rw [List.filterMap_cons_some hb, firsts, List.mem_cons, List.mem_filter] at h
      rcases h with rfl | ⟨h, hkey⟩
      · exact ⟨[], b, bs, rfl, hb, by simp⟩
      · obtain ⟨before, c, after, rfl, hc, hfirst⟩ := ih h
        refine ⟨b :: before, c, after, rfl, hc, List.forall_mem_cons.2 ⟨fun a' ha' => ?_, hfirst⟩⟩
        obtain rfl := Option.some.inj (hb.symm.trans ha')
        exact (of_decide_eq_true hkey).symm

/-- What is first of its key when elements are left out is first among all, or one that is left out
comes before it. -/
theorem exists_mem_firsts_of_filter {p : α → Bool} {as : List α} {a : α}
    (h : a ∈ firsts key (as.filter p)) :
    ∃ b ∈ firsts key as, key b = key a ∧ (b = a ∨ p b = false) := by
  induction as with
  | nil => cases h
  | cons c as ih =>
    by_cases hkey : key a = key c
    · -- the first of this key is `c`, which is `a` unless it is left out
      refine ⟨c, List.mem_cons_self, hkey.symm, ?_⟩
      by_cases hc : p c = true
      · rw [List.filter_cons_of_pos hc, firsts, List.mem_cons, List.mem_filter] at h
        rcases h with rfl | ⟨-, hne⟩
        · exact Or.inl rfl
        · exact absurd hkey (of_decide_eq_true hne)
      · exact Or.inr (eq_false_of_ne_true hc)
    · have hrest : a ∈ firsts key (as.filter p) := by
        by_cases hc : p c = true
        · rw [List.filter_cons_of_pos hc, firsts, List.mem_cons, List.mem_filter] at h
          rcases h with rfl | ⟨h, -⟩
          · exact absurd rfl hkey
          · exact h
        · rwa [List.filter_cons_of_neg hc] at h
      obtain ⟨b, hb, hba, hor⟩ := ih hrest
      have hbc : key b ≠ key c := hba ▸ hkey
      exact ⟨b, List.mem_cons_of_mem c (List.mem_filter.2 ⟨hb, decide_eq_true hbc⟩), hba, hor⟩

/-- In a list in strict order, an element is first of its key if no other of that key is before
it. -/
theorem mem_firsts_iff {r : α → α → Prop} (hasymm : ∀ a b, r a b → ¬r b a) {as : List α}
    (h : as.Pairwise r) {a : α} :
    a ∈ firsts key as ↔ a ∈ as ∧ ∀ b ∈ as, key b = key a → b = a ∨ r a b := by
  induction as with
  | nil => simp [firsts]
  | cons c as ih =>
    obtain ⟨hc, has⟩ := List.pairwise_cons.1 h
    rw [firsts, List.mem_cons, List.mem_filter, ih has, decide_eq_true_eq]
    constructor
    · rintro (rfl | ⟨⟨ha, hfirst⟩, hkey⟩)
      · refine ⟨List.mem_cons_self, List.forall_mem_cons.2 ⟨fun _ => Or.inl rfl, ?_⟩⟩
        exact fun b hb _ => Or.inr (hc b hb)
      · refine ⟨List.mem_cons_of_mem c ha, List.forall_mem_cons.2 ⟨fun hca => ?_, hfirst⟩⟩
        exact absurd hca.symm hkey
    · rintro ⟨ha, hfirst⟩
      obtain ⟨hfirst₀, hfirst⟩ := List.forall_mem_cons.1 hfirst
      rcases List.mem_cons.1 ha with rfl | ha
      · exact Or.inl rfl
      · by_cases hkey : key a = key c
        · rcases hfirst₀ hkey.symm with rfl | hac
          · exact Or.inl rfl
          · exact absurd hac (hasymm c a (hc a ha))
        · exact Or.inr ⟨⟨ha, hfirst⟩, hkey⟩

end SmellScan
