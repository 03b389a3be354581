import SmellScan.Proofs.FileSystem.ReadBack
import SmellScan.Proofs.Json.Lines
import SmellScan.Proofs.Text.Lines
import SmellScan.RunLog

/-!
# What a log holds

An event is appended to the log file of the day behind what the file holds (`readBytes_append`), so
several events of one day stand there in their order (`readBytes_appendAll`), each with the time at
which it was logged. The line of an event has no line feed but the one at its end, whatever
characters the event holds: cut at line feeds, what was appended is the texts of the events, and
each is read back as its event (`parse_lines`).
-/

namespace SmellScan

namespace RunLog

variable {log : RunLog} {now : ℕ → Timestamp} {fs fs' : FileSystem} {file : Path}

/-- Events with the times at which they are logged. The time of day is read twice for each, and the
second reading is for the day. -/
def timed (now : ℕ → Timestamp) (events : List Event) : List (Timestamp × Event) :=
  events.zipIdx.map fun p => (now (2 * p.2), p.1)

/-- The lines of events, one after the other. -/
def text (now : ℕ → Timestamp) (events : List Event) : String :=
  String.join ((timed now events).map fun p => line p.1 p.2)

theorem timed_cons (e : Event) (events : List Event) :
    timed now (e :: events) = (now 0, e) :: timed (fun n => now (n + 2)) events := by
  rw [timed, List.zipIdx_cons, List.map_cons, List.zipIdx_succ, List.map_map]
  rfl

theorem snd_of_mem_timed {events : List Event} {p : Timestamp × Event}
    (h : p ∈ timed now events) : p.2 ∈ events := by
  obtain ⟨⟨e, i⟩, he, rfl⟩ := List.mem_map.1 h
  exact List.fst_mem_of_mem_zipIdx he

/-! ## Appending -/

theorem readBytes_append {stamp day : Timestamp} {e : Event}
    (h : log.append stamp day fs e = .ok fs') :
    ∃ old, fs.Held (log.file day) old ∧
      fs'.readBytes (log.file day) = .ok (old ++ Text.encodeUtf8 (line stamp e).toList) :=
  FileSystem.readBytes_appendText h

theorem encodeUtf8_text_cons (e : Event) (events : List Event) :
    Text.encodeUtf8 (text now (e :: events)).toList =
      Text.encodeUtf8 (line (now 0) e).toList ++
        Text.encodeUtf8 (text (fun n => now (n + 2)) events).toList := by
  simp [text, timed_cons, Text.encodeUtf8]

/-- **Events of one day that are appended one after the other** stand in its log file behind what it
held. -/
theorem readBytes_appendAll {events : List Event} (hne : events ≠ [])
    (hday : ∀ i < events.length, log.file (now (2 * i + 1)) = file)
    (h : log.appendAll now fs events = .ok fs') :
    ∃ old, fs.Held file old ∧
      fs'.readBytes file = .ok (old ++ Text.encodeUtf8 (text now events).toList) := by
  induction events generalizing fs now with
  | nil => exact absurd rfl hne
  | cons e events ih =>
    have hfirst : log.file (now 1) = file := hday 0 (by simp)
    rw [appendAll] at h
    split at h
    · rename_i written happend
      obtain ⟨old, hold, hread⟩ := readBytes_append happend
      rw [hfirst] at hold hread
      refine ⟨old, hold, ?_⟩
      rw [encodeUtf8_text_cons, ← List.append_assoc]
      by_cases hlast : events = []
      · subst hlast
        cases h
        rw [hread]
        simp [text, timed, Text.encodeUtf8]
      · have hlater : ∀ i < events.length, log.file (now (2 * i + 1 + 2)) = file := by
          intro i hi
          have heq : 2 * i + 1 + 2 = 2 * (i + 1) + 1 := by omega
          rw [heq]
          exact hday (i + 1) (Nat.succ_lt_succ hi)
        have hrest := fun hday => ih hlast hday h
        obtain ⟨old', hold', hread'⟩ := hrest hlater
        rw [hread', hold'.eq hread]
    · cases h

/-- A log that takes any text on a day takes all events of the day. -/
theorem exists_appendAll (hday : ∀ i, log.file (now (2 * i + 1)) = file)
    (h : ∀ s, ∃ written, fs.appendText file s = .ok written) (events : List Event) :
    ∃ written, log.appendAll now fs events = .ok written := by
  induction events generalizing fs now with
  | nil => exact ⟨fs, rfl⟩
  | cons e events ih =>
    obtain ⟨written, happend⟩ := h (line (now 0) e)
    have hfirst : log.append (now 0) (now 1) fs e = .ok written := by
      rw [append, hday 0]
      exact happend
    have hlater : ∀ i, log.file (now (2 * i + 1 + 2)) = file := by
      intro i
      have heq : 2 * i + 1 + 2 = 2 * (i + 1) + 1 := by omega
      rw [heq]
      exact hday (i + 1)
    rw [appendAll, hfirst]
    exact ih hlater fun s => FileSystem.exists_updateFile_again happend _

/-! ## Reading back -/

theorem finiteFloats_toJson {e : Event} (h : Json.FiniteFloats e.data) (now : Timestamp) :
    Json.FiniteFloats (e.toJson now) := by
  refine .obj ?_
  simp only [List.forall_mem_cons]
  refine ⟨.str _, h, ?_, ?_, .str _, by simp⟩
  · cases e.file with
    | none => exact .null
    | some file => exact .str file
  · cases e.duration with
    | none => exact .null
    | some ms => exact .int ms

/-- **Each line of events is read back as its event.** -/
theorem parse_lines (now : ℕ → Timestamp) {events : List Event}
    (h : ∀ e ∈ events, Json.FiniteFloats e.data) :
    ∃ lines, Text.lines (text now events) = lines ++ [""] ∧
      lines.map Json.parse = (timed now events).map fun p => some (p.2.toJson p.1) := by
  have hfinite : ∀ p ∈ timed now events, Json.FiniteFloats (p.2.toJson p.1) :=
    fun p hp => finiteFloats_toJson (h _ (snd_of_mem_timed hp)) p.1
  refine ⟨(timed now events).map fun p => (p.2.toJson p.1).compact, ?_, ?_⟩
  · have hlines : ∀ s ∈ (timed now events).map fun p => (p.2.toJson p.1).compact,
        '\n' ∉ s.toList := by
      simp only [List.forall_mem_map]
      exact fun p hp => Json.newline_not_mem_compact (hfinite p hp)
    rw [← Text.lines_join hlines, List.map_map]
    rfl
  · rw [List.map_map]
    refine List.map_congr_left fun p hp => ?_
    rw [Function.comp_apply, Json.parse_compact (hfinite p hp)]

end RunLog

end SmellScan
