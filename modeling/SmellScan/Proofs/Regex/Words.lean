import Mathlib.Data.List.Basic
import SmellScan.Regex.Parser

/-!
# Plain patterns

A character that is special in a pattern stands for itself behind a backslash, so that every word
can be spelled (`quote`). A plain pattern is made of such characters, of points, of points with a
star, and of the signs for the two ends of a text. It is read piece by piece
(`reads_sequence_plain`), and is what its pieces say (`parse_plain`).
-/

namespace SmellScan.Regex

/-! ## Readers that end well -/

/-- A reader that begins with the progress `p` ends with a value and the progress `p'`. -/
def Reads {α : Type} (r : Reader α) (p : Progress) (a : α) (p' : Progress) : Prop :=
  r.run p = .ok (a, p')

section Reads

variable {α β : Type} {r : Reader α} {f : α → Reader β} {p p' p'' : Progress} {a : α} {b : β}

theorem Reads.bind (hr : Reads r p a p') (hf : Reads (f a) p' b p'') : Reads (r >>= f) p b p'' := by
  unfold Reads at *
  rw [StateT.run_bind, hr]
  exact hf

theorem reads_pure (a : α) (p : Progress) : Reads (pure a) p a p := rfl

theorem reads_get (p : Progress) : Reads get p p p := rfl

theorem reads_peek (p : Progress) : Reads Reader.peek p p.source.next p := rfl

theorem reads_place (p : Progress) : Reads Reader.place p p.source.place p := rfl

theorem reads_take {source : Source} (h : p.source.advance = .ok source) :
    Reads Reader.take p p.source.next { p with source } := by
  have hadvance : Reads (liftM p.source.advance) p source p := by
    rw [h]
    rfl
  have hset : Reads (set { p with source }) p () { p with source } := rfl
  exact (reads_get p).bind (hadvance.bind (hset.bind (reads_pure _ _)))

theorem reads_accept_false {c : Char} (h : p.source.next ≠ some (.plain c)) :
    Reads (Reader.accept c) p false p := by
  unfold Reader.accept
  refine (reads_peek p).bind ?_
  rw [if_neg h]
  exact reads_pure false p

end Reads

/-! ## Plain pieces -/

/-- The characters that do not stand for themselves in a pattern. -/
def specials : List Char :=
  ['.', '^', '$', '*', '+', '?', '\x7b', '[', '\\', '|', '(', ')']

/-- The token that stands for a character. -/
def quoteToken (c : Char) : Token :=
  if c ∈ specials then .escaped c else .plain c

/-- The characters of a pattern that spells a word. -/
def quote (word : List Char) : List Char :=
  word.flatMap fun c => (quoteToken c).chars

/-- The characters of a word as pieces. -/
def literals (word : List Char) : List Node :=
  word.map (.literal ·.toNat)

/-- A piece without brackets. -/
inductive PlainPiece where
  | char (c : Char)
  /-- Any character of a line. -/
  | any
  /-- Characters of one line, as many as possible. -/
  | anyChars
  | start
  | stop
  deriving DecidableEq

namespace PlainPiece

/-- The token with which a piece begins. -/
def token : PlainPiece → Token
  | .char c => quoteToken c
  | .any | .anyChars => .plain '.'
  | .start => .plain '^'
  | .stop => .plain '$'

/-- What is written behind the first token. -/
def behind : PlainPiece → List Char
  | .anyChars => ['*']
  | _ => []

/-- How a piece is written. -/
def spelling (piece : PlainPiece) : List Char :=
  piece.token.chars ++ piece.behind

/-- What a piece is read as. -/
def node : PlainPiece → Node
  | .char c => .literal c.toNat
  | .any => .any
  | .anyChars => .loop .greedy 0 none [.any]
  | .start => .anchor .start
  | .stop => .anchor .stop

end PlainPiece

/-- How a plain pattern is written. -/
def spell (pieces : List PlainPiece) : List Char :=
  pieces.flatMap PlainPiece.spelling

section Plain

variable {namedChar? : String → Option Char} {first : Bool} {place turns : ℕ} {c : Char}
  {word tail : List Char} {done done' part : List Node} {p p' : Progress} {source source' : Source}
  {piece : PlainPiece} {pieces : List PlainPiece}

theorem quote_cons (c : Char) (word : List Char) :
    quote (c :: word) = (quoteToken c).chars ++ quote word := rfl

/-- A word without special characters spells itself. -/
theorem quote_eq_self (h : ∀ c ∈ word, c ∉ specials) : quote word = word := by
  induction word with
  | nil => rfl
  | cons c word ih =>
    obtain ⟨hc, hword⟩ := List.forall_mem_cons.1 h
    rw [quote_cons, ih hword, quoteToken, if_neg hc]
    rfl

theorem spell_cons (piece : PlainPiece) (pieces : List PlainPiece) :
    spell (piece :: pieces) = piece.token.chars ++ (piece.behind ++ spell pieces) :=
  List.append_assoc _ _ _

theorem spell_map_char (word : List Char) : spell (word.map .char) = quote word := by
  induction word with
  | nil => rfl
  | cons c word ih =>
    rw [List.map_cons, spell_cons, ih]
    rfl

theorem map_node_char (word : List Char) :
    (word.map PlainPiece.char).map PlainPiece.node = literals word :=
  List.map_map

/-! ## Tokens -/

theorem ahead_quoteToken (c : Char) (tail : List Char) (place : ℕ) :
    Source.ahead place ((quoteToken c).chars ++ tail) = .ok ⟨some (quoteToken c), tail, place⟩ := by
  unfold quoteToken
  split_ifs with hc
  · rfl
  · have hne : c ≠ '\\' := by
      rintro rfl
      exact hc (by decide)
    simp only [Token.chars, List.singleton_append]
    unfold Source.ahead
    split <;> simp_all

theorem ahead_token (piece : PlainPiece) (tail : List Char) (place : ℕ) :
    Source.ahead place (piece.token.chars ++ tail) = .ok ⟨some piece.token, tail, place⟩ := by
  cases piece with
  | char c => exact ahead_quoteToken c tail place
  | any | anyChars | start | stop => rfl

theorem quoteToken_ne (hc : c ∈ specials) (d : Char) : quoteToken d ≠ .plain c := by
  unfold quoteToken
  split_ifs with hd
  · simp
  · rintro h
    cases h
    exact hd hc

/-- The signs with which no plain piece begins: bars, brackets and what is behind a repetition. -/
def foreignSigns : List Char :=
  ['|', ')', '(', '?', '+']

theorem token_ne (hc : c ∈ foreignSigns) (piece : PlainPiece) : piece.token ≠ .plain c := by
  have hspecial : c ∈ specials :=
    (by decide : foreignSigns ⊆ specials) hc
  cases piece with
  | char d => exact quoteToken_ne hspecial d
  | any | anyChars | start | stop =>
    rintro h
    cases h
    revert hc
    decide

/-- What is ahead in a plain pattern is not one of the signs with which no piece begins. -/
theorem exists_ahead_spell (pieces : List PlainPiece) (place : ℕ) :
    ∃ source, Source.ahead place (spell pieces) = .ok source ∧
      ∀ c ∈ foreignSigns, source.next ≠ some (.plain c) := by
  cases pieces with
  | nil => exact ⟨⟨none, [], place⟩, rfl, fun c _ => by simp⟩
  | cons piece pieces =>
    refine ⟨_, (congrArg _ (spell_cons piece pieces)).trans (ahead_token piece _ place), ?_⟩
    exact fun c hc h => token_ne hc piece (Option.some.inj h)

/-! ## Reading pieces -/

/-- At the end of a pattern a part ends. -/
theorem reads_sequence_end (turns place : ℕ) (p : Progress) :
    Reads (Reader.sequence namedChar? false first done (turns + 1))
      { p with source := ⟨none, [], place⟩ } (unwrap done.reverse)
      { p with source := ⟨none, [], place⟩ } :=
  rfl

/-- A token at the beginning of a part that is no bracket and no bar becomes a piece. -/
theorem reads_sequence_piece {t : Token} (hnext : source.next = some t)
    (hadvance : source.advance = .ok source')
    (ht : t ≠ .plain '|' ∧ t ≠ .plain ')' ∧ t ≠ .plain '(')
    (hpiece : Reads (Reader.piece namedChar? source.place done t)
      { p with source := source' } done' { p with source := source' })
    (h : Reads (Reader.sequence namedChar? false first done' turns)
      { p with source := source' } part p') :
    Reads (Reader.sequence namedChar? false first done (turns + 1)) { p with source } part p' := by
  have htake : Reads Reader.take { p with source } (some t) { p with source := source' } := by
    rw [← hnext]
    exact reads_take hadvance
  rw [Reader.sequence]
  refine (reads_place _).bind ((reads_peek _).bind ?_)
  dsimp only
  rw [hnext]
  split
  · simp_all
  · simp_all
  · simp_all
  · rename_i heq
    cases heq
    refine htake.bind ?_
    rw [if_neg (by simp), if_neg (by simp), if_neg ht.2.2]
    exact hpiece.bind h

/-- The token of a character becomes its piece. -/
theorem piece_quoteToken (namedChar? : String → Option Char) (c : Char) (begun : ℕ)
    (done : List Node) :
    Reader.piece namedChar? begun done (quoteToken c) = pure (.literal c.toNat :: done) := by
  unfold quoteToken
  split_ifs with hc
  · simp only [specials, List.mem_cons, List.not_mem_nil, or_false] at hc
    rcases hc with rfl | rfl | rfl | rfl | rfl | rfl | rfl | rfl | rfl | rfl | rfl | rfl <;> rfl
  · simp only [specials, List.mem_cons, not_or] at hc
    unfold Reader.piece
    split <;> simp_all

theorem reads_piece_token (hbehind : piece.behind = []) (begun : ℕ) (done : List Node)
    (p : Progress) :
    Reads (Reader.piece namedChar? begun done piece.token) p (piece.node :: done) p := by
  cases piece with
  | char c => exact (piece_quoteToken namedChar? c begun done).symm ▸ reads_pure _ p
  | anyChars => simp [PlainPiece.behind] at hbehind
  | any | start | stop => exact reads_pure _ p

/-- A star behind a point repeats it, as often as possible if nothing else is said. -/
theorem reads_piece_star (begun : ℕ) (done : List Node) (hlazy : p.source.next ≠ some (.plain '?'))
    (hpossessive : p.source.next ≠ some (.plain '+')) :
    Reads (Reader.piece namedChar? begun (.any :: done) (.plain '*')) p
      (.loop .greedy 0 none [.any] :: done) p := by
  have hmode : Reads Reader.repeatMode p .greedy p := by
    unfold Reader.repeatMode
    exact (reads_accept_false hlazy).bind ((reads_accept_false hpossessive).bind (reads_pure _ p))
  have hnode : Reads (do return .loop (← Reader.repeatMode) 0 none [.any] :: done) p
      (.loop .greedy 0 none [.any] :: done) p :=
    hmode.bind (reads_pure _ p)
  exact (reads_pure _ p).bind hnode

/-- A piece takes a turn for its token and one for what is behind it. -/
theorem reads_sequence_plainPiece
    (hahead : Source.ahead (place + piece.spelling.length) tail = .ok source)
    (hforeign : ∀ c ∈ foreignSigns, source.next ≠ some (.plain c))
    (h : Reads (Reader.sequence namedChar? false first (piece.node :: done) turns)
      { p with source } part p') :
    Reads (Reader.sequence namedChar? false first done (turns + piece.behind.length + 1))
      { p with source := ⟨some piece.token, piece.behind ++ tail, place⟩ } part p' := by
  have htoken : piece.token ≠ .plain '|' ∧ piece.token ≠ .plain ')' ∧
      piece.token ≠ .plain '(' :=
    ⟨token_ne (by decide) piece, token_ne (by decide) piece, token_ne (by decide) piece⟩
  by_cases hbehind : piece.behind = []
  · rw [PlainPiece.spelling, hbehind, List.append_nil] at hahead
    rw [hbehind]
    exact reads_sequence_piece rfl hahead htoken (reads_piece_token hbehind _ _ _) h
  · obtain rfl : piece = .anyChars := by
      cases piece <;> simp_all [PlainPiece.behind]
    have hstar : Reads (Reader.sequence namedChar? false first (.any :: done) (turns + 1))
        { p with source := ⟨some (.plain '*'), tail, place + 1⟩ } part p' :=
      reads_sequence_piece rfl hahead ⟨by simp, by simp, by simp⟩
        (reads_piece_star _ _ (hforeign '?' (by decide)) (hforeign '+' (by decide))) h
    exact reads_sequence_piece rfl rfl htoken (reads_pure _ _) hstar

/-- **A plain pattern is read piece by piece.** -/
theorem reads_sequence_plain (hahead : Source.ahead place (spell pieces) = .ok source)
    (hturns : (spell pieces).length < turns) :
    Reads (Reader.sequence namedChar? false first done turns) { p with source }
      (unwrap (done.reverse ++ pieces.map PlainPiece.node))
      { p with source := ⟨none, [], place + (spell pieces).length⟩ } := by
  induction pieces generalizing place source done turns with
  | nil =>
    obtain ⟨turns, rfl⟩ := Nat.exists_eq_add_one_of_ne_zero (Nat.ne_of_gt hturns)
    obtain rfl := Except.ok.inj hahead
    rw [List.map_nil, List.append_nil]
    exact reads_sequence_end turns place p
  | cons piece pieces ih =>
    have hlength : (spell (piece :: pieces)).length =
        piece.token.chars.length + piece.behind.length + (spell pieces).length := by
      rw [spell_cons, List.length_append, List.length_append, Nat.add_assoc]
    have hpos : 0 < piece.token.chars.length := List.length_pos_of_ne_nil (by
      unfold Token.chars
      split <;> simp)
    rw [spell_cons, ahead_token] at hahead
    obtain rfl := Except.ok.inj hahead
    obtain ⟨next, hnext, hforeign⟩ :=
      exists_ahead_spell pieces (place + piece.spelling.length)
    obtain ⟨left, rfl⟩ : ∃ left, turns = left + piece.behind.length + 1 :=
      ⟨turns - (piece.behind.length + 1), by omega⟩
    have hend : place + piece.spelling.length + (spell pieces).length =
        place + (spell (piece :: pieces)).length := by
      rw [PlainPiece.spelling, List.length_append, hlength, Nat.add_assoc]
    rw [List.map_cons, List.append_cons, ← List.reverse_cons, ← hend]
    exact reads_sequence_plainPiece hnext hforeign (ih hnext (by omega))

end Plain

/-! ## Plain patterns -/

section Patterns

variable {flags : Flags} {pattern : String} {source : Source} {part : List Node} {place : ℕ}
  {pieces : List PlainPiece}

/-- A pattern is its part, if that is read to the end. -/
theorem parse_of_reads {namedChar? : String → Option Char} (hflags : .verbose ∉ flags)
    (hahead : Source.ahead 0 pattern.toList = .ok source)
    (hread : Reads (Reader.sequence namedChar? false true [] (4 * pattern.toList.length + 1))
      { source, flags } part { source := ⟨none, [], place⟩, flags })
    (hcheck : ∀ fixed, fixFlags flags = .ok fixed → checkPart [none] fixed part = .ok ()) :
    parse namedChar? flags pattern = (fixFlags flags).map fun flags => ⟨part, flags, [none]⟩ := by
  have hbar : Reads (Reader.accept '|') { source := ⟨none, [], place⟩, flags } false
      { source := ⟨none, [], place⟩, flags } := rfl
  have hparts : Reads (Reader.parts namedChar? true false true (4 * pattern.toList.length + 2))
      { source, flags } [part] { source := ⟨none, [], place⟩, flags } := by
    rw [Reader.parts]
    exact hread.bind (hbar.bind (reads_pure _ _))
  have hall : Reads (Reader.alternatives namedChar? true false (turnsFor pattern.toList.length))
      { source, flags } part { source := ⟨none, [], place⟩, flags } := by
    rw [turnsFor, Reader.alternatives]
    exact hparts.bind (reads_pure part _)
  unfold parse
  dsimp only
  rw [hahead, show flags.contains .verbose = false by simpa using hflags]
  change (Reader.alternatives namedChar? true false _).run _ >>= _ = _
  rw [hall]
  change fixFlags flags >>= _ = _
  cases hfixed : fixFlags flags with
  | error fault => rfl
  | ok fixed =>
    change checkPart _ fixed part >>= _ = _
    rw [hcheck fixed hfixed]
    rfl

theorem unwrap_plain (pieces : List PlainPiece) :
    unwrap (pieces.map PlainPiece.node) = pieces.map PlainPiece.node := by
  induction pieces with
  | nil => rfl
  | cons piece pieces ih =>
    have hpiece : unwrap (piece.node :: pieces.map PlainPiece.node) =
        piece.node :: unwrap (pieces.map PlainPiece.node) := by
      cases piece <;> rfl
    rw [List.map_cons, hpiece, ih]

theorem not_template_of_fixFlags {fixed : Flags} (h : fixFlags flags = .ok fixed)
    (hflags : .template ∉ flags) : .template ∉ fixed := by
  unfold fixFlags at h
  split_ifs at h <;> cases h <;> simp [hflags]

theorem checkPart_plain (groups : List (Option Width)) (hflags : .template ∉ flags)
    (pieces : List PlainPiece) :
    checkPart groups flags (pieces.map PlainPiece.node) = .ok () := by
  induction pieces with
  | nil => rfl
  | cons piece pieces ih =>
    have hpiece : piece.node.check groups flags = .ok () := by
      cases piece with
      | anyChars =>
        rw [PlainPiece.node, Node.check, if_neg (by simpa using hflags)]
        rfl
      | char c | any | start | stop => rfl
    rw [List.map_cons, checkPart, hpiece]
    exact ih

/-- **A plain pattern is what its pieces say.** -/
theorem parse_plain (namedChar? : String → Option Char) (hverbose : .verbose ∉ flags)
    (htemplate : .template ∉ flags) (hpattern : pattern.toList = spell pieces) :
    parse namedChar? flags pattern =
      (fixFlags flags).map fun flags => ⟨pieces.map PlainPiece.node, flags, [none]⟩ := by
  obtain ⟨source, hahead, -⟩ := exists_ahead_spell pieces 0
  have hread : Reads
      (Reader.sequence namedChar? false true [] (4 * pattern.toList.length + 1))
      { source, flags } (unwrap (pieces.map PlainPiece.node))
      { source := ⟨none, [], 0 + (spell pieces).length⟩, flags } :=
    reads_sequence_plain (p := { source, flags }) hahead (by rw [hpattern]; omega)
  rw [unwrap_plain] at hread
  exact parse_of_reads hverbose (hpattern ▸ hahead) hread fun fixed hfixed =>
    checkPart_plain [none] (not_template_of_fixFlags hfixed htemplate) pieces

end Patterns

end SmellScan.Regex
