import MonitValidation.Engine.Service

/-!
# The read loop of `check_match`

`check_match` reads a file from the position it stopped at in the previous cycle: each pass
of its loop seeks to `readpos`, reads with `fgets` into a buffer of `MATCH_LINE_LENGTH`
bytes, measures the line with `strlen`, and either stops (end of file, or a line that has
no newline yet), or hands the line to the tests and advances `readpos` by `length`. A line
longer than the buffer is consumed to its newline with `fgetc`, and only its first 511 bytes
are tested.

The loop is modelled pass by pass on the bytes of the file. The lemmas below show that on a
file without NUL bytes the loop reads exactly the newline-terminated lines after `readpos`,
each cut to 511 bytes, and stops at the incomplete line after them. `strlen` measures a
line only up to its first NUL, so a NUL byte breaks this.
-/

namespace MonitValidation.Content

/-- `MATCH_LINE_LENGTH`: the size of the line buffer of `check_match`. -/
def MATCH_LINE_LENGTH : Nat := 512

/-- The bytes `fgets(line, n + 1, file)` stores: at most `n`, up to and including the first
newline. -/
def fgetsBytes : Nat → List UInt8 → List UInt8
  | 0, _ => []
  | _, [] => []
  | n + 1, b :: bs => if b = 10 then [b] else b :: fgetsBytes n bs

/-- `strlen(line)` of a buffer holding `buf` and then a NUL. -/
def strlen (buf : List UInt8) : Nat := (buf.takeWhile fun b => b != 0).length

/-- The `fgetc` loop past a full buffer: how many bytes it reads, up to and including the
next newline; `none` when the file ends before one. -/
def fgetcToNewline : List UInt8 → Option Nat
  | [] => none
  | b :: bs => if b = 10 then some 1 else (fgetcToNewline bs).map (· + 1)

theorem fgetsBytes_length_le_length (n : Nat) (l : List UInt8) :
    (fgetsBytes n l).length ≤ l.length := by
  induction n generalizing l with
  | zero => simp [fgetsBytes]
  | succ n ih =>
    cases l with
    | nil => simp [fgetsBytes]
    | cons b l => unfold fgetsBytes; split <;> simp [ih l]

theorem fgetcToNewline_le {l : List UInt8} {k : Nat} (h : fgetcToNewline l = some k) :
    k ≤ l.length := by
  induction l generalizing k with
  | nil => cases h
  | cons b l ih =>
    by_cases hb : b = 10
    · simp [fgetcToNewline, hb] at h; simp [← h]
    · simp only [fgetcToNewline, hb, if_false] at h
      obtain ⟨k', hk', rfl⟩ := Option.map_eq_some'.1 h
      simpa using ih hk'

/-- One pass of the loop: `goto final`, or a line handed to the tests with the `length` that
`readpos` advances by. -/
inductive LineRead
  | final
  | line (text : List UInt8) (length : Nat)
  deriving DecidableEq

/-- One pass of the loop of `check_match`, from `next:` to `readpos += length`, on `rest`,
the file from `readpos` on. -/
def readLine (rest : List UInt8) : LineRead :=
  if rest = [] then .final else
  let buf := fgetsBytes (MATCH_LINE_LENGTH - 1) rest
  let length := strlen buf
  if length = 0 then .final
  else if buf[length - 1]? ≠ some 10 then
    if length < MATCH_LINE_LENGTH - 1 then .final
    else if length = MATCH_LINE_LENGTH - 1 then
      match fgetcToNewline (rest.drop buf.length) with
      | none => .final
      | some k => .line (buf.take length) (length + k)
    else .line (buf.take length) length
  else .line (buf.take (length - 1)) length

/-- A pass that hands a line on has read at least one byte and at most what is left of the
file, and the line is a prefix of what `fgets` put in the buffer. -/
theorem readLine_eq_line {rest text : List UInt8} {length : Nat}
    (h : readLine rest = .line text length) :
    rest ≠ [] ∧ 0 < length ∧ (∃ k, text = (fgetsBytes (MATCH_LINE_LENGTH - 1) rest).take k) ∧
      length ≤ rest.length := by
  unfold readLine at h
  by_cases hrest : rest = []
  · rw [if_pos hrest] at h; cases h
  rw [if_neg hrest] at h
  refine ⟨hrest, ?_⟩
  have hbuf := fgetsBytes_length_le_length (MATCH_LINE_LENGTH - 1) rest
  generalize fgetsBytes (MATCH_LINE_LENGTH - 1) rest = buf at h hbuf ⊢
  dsimp only at h
  have hafter : (rest.drop buf.length).length = rest.length - buf.length := List.length_drop ..
  generalize rest.drop buf.length = after at h hafter
  have hlen_le : strlen buf ≤ buf.length := (List.takeWhile_sublist _).length_le
  by_cases hlen : strlen buf = 0
  · rw [if_pos hlen] at h; cases h
  rw [if_neg hlen] at h
  by_cases hnl : buf[strlen buf - 1]? ≠ some 10
  · rw [if_pos hnl] at h
    by_cases hshort : strlen buf < MATCH_LINE_LENGTH - 1
    · rw [if_pos hshort] at h; cases h
    rw [if_neg hshort] at h
    by_cases hfull : strlen buf = MATCH_LINE_LENGTH - 1
    · rw [if_pos hfull] at h
      split at h
      · cases h
      · next k hk =>
        cases h
        have := fgetcToNewline_le hk
        exact ⟨by omega, ⟨_, rfl⟩, by omega⟩
    · rw [if_neg hfull] at h; cases h
      exact ⟨by omega, ⟨_, rfl⟩, by omega⟩
  · rw [if_neg hnl] at h; cases h
    exact ⟨by omega, ⟨_, rfl⟩, by omega⟩

theorem lt_length_of_readLine {c text : List UInt8} {readpos length : Nat}
    (h : readLine (c.drop readpos) = .line text length) :
    c.length - (readpos + length) < c.length - readpos := by
  obtain ⟨hne, hpos, -⟩ := readLine_eq_line h
  have : readpos < c.length := by
    by_contra hle
    exact hne (List.drop_eq_nil_iff.2 (by omega))
  omega

/-- The loop of `check_match` from `readpos`: every pass reads a line at `readpos`, advances
`readpos` past it and hands it to `examine`, the tests of the loop's body. -/
def readLoop {σ : Type} (examine : σ → List UInt8 → σ) (c : List UInt8) (readpos : Nat)
    (st : σ) : Nat × σ :=
  match h : readLine (c.drop readpos) with
  | .final => (readpos, st)
  | .line text length => readLoop examine c (readpos + length) (examine st text)
termination_by c.length - readpos
decreasing_by exact lt_length_of_readLine h

/-- The reading half of the loop: the lines it hands on from `readpos`, in order, and the
`readpos` it stops at. -/
def readLines (c : List UInt8) (readpos : Nat) : List (List UInt8) × Nat :=
  match h : readLine (c.drop readpos) with
  | .final => ([], readpos)
  | .line text length =>
    let r := readLines c (readpos + length)
    (text :: r.1, r.2)
termination_by c.length - readpos
decreasing_by exact lt_length_of_readLine h

/-- The loop hands the tests exactly the lines `readLines` reads, one after another. -/
theorem readLoop_eq_readLines {σ : Type} (examine : σ → List UInt8 → σ) (c : List UInt8)
    (readpos : Nat) (st : σ) :
    readLoop examine c readpos st =
      ((readLines c readpos).2, (readLines c readpos).1.foldl examine st) := by
  induction readpos, st using readLoop.induct examine c with
  | case1 readpos st h =>
    rw [readLoop, readLines]
    split <;> simp_all
  | case2 readpos st text length h ih =>
    rw [readLoop, readLines]
    split
    · simp_all
    · next text' length' h' =>
      rw [h] at h'
      cases h'
      simp [ih]

/-! ## Files without NUL bytes -/

theorem fgetsBytes_of_newline {n : Nat} {l : List UInt8} (rest : List UInt8) (hn : l.length < n)
    (hl : 10 ∉ l) : fgetsBytes n (l ++ 10 :: rest) = l ++ [10] := by
  induction l generalizing n with
  | nil => cases n <;> simp_all [fgetsBytes]
  | cons b l ih =>
    obtain ⟨m, rfl⟩ : ∃ m, n = m + 1 := ⟨n - 1, by simp at hn; omega⟩
    have hb : b ≠ 10 := fun h => hl (h ▸ List.mem_cons_self b l)
    simp only [List.cons_append, fgetsBytes, hb, ite_false, List.append_eq]
    rw [ih (n := m) (by simp at hn; omega) (fun h => hl (List.mem_cons_of_mem b h))]

theorem fgetsBytes_of_take {n : Nat} {l : List UInt8} (hl : 10 ∉ l.take n) :
    fgetsBytes n l = l.take n := by
  induction n generalizing l with
  | zero => simp [fgetsBytes]
  | succ n ih =>
    cases l with
    | nil => simp [fgetsBytes]
    | cons b l =>
      have hb : b ≠ 10 := fun h => hl (by simp [h])
      simp only [fgetsBytes, hb, ite_false, List.take_succ_cons]
      rw [ih (fun h => hl (by simp [h]))]

theorem strlen_of_nul_free {l : List UInt8} (h : 0 ∉ l) : strlen l = l.length := by
  rw [strlen, List.takeWhile_eq_self_iff.2]
  intro b hb
  simp only [bne_iff_ne, ne_eq]
  rintro rfl
  exact h hb

theorem fgetcToNewline_of_newline {l : List UInt8} (rest : List UInt8) (hl : 10 ∉ l) :
    fgetcToNewline (l ++ 10 :: rest) = some (l.length + 1) := by
  induction l with
  | nil => simp [fgetcToNewline]
  | cons b l ih =>
    have hb : b ≠ 10 := fun h => hl (h ▸ List.mem_cons_self b l)
    simp [fgetcToNewline, hb, ih (fun h => hl (List.mem_cons_of_mem b h))]

theorem fgetcToNewline_none {l : List UInt8} (hl : 10 ∉ l) : fgetcToNewline l = none := by
  induction l with
  | nil => rfl
  | cons b l ih =>
    have hb : b ≠ 10 := fun h => hl (h ▸ List.mem_cons_self b l)
    simp [fgetcToNewline, hb, ih (fun h => hl (List.mem_cons_of_mem b h))]

/-- A complete line without NUL bytes is handed on whole, cut to 511 bytes, and `readpos`
moves past its newline. -/
theorem readLine_complete {l : List UInt8} (rest : List UInt8) (hl : 10 ∉ l) (h0 : 0 ∉ l) :
    readLine (l ++ 10 :: rest) = .line (l.take (MATCH_LINE_LENGTH - 1)) (l.length + 1) := by
  have hne : l ++ 10 :: rest ≠ [] := by simp
  by_cases hshort : l.length < MATCH_LINE_LENGTH - 1
  · have hbuf := fgetsBytes_of_newline rest hshort hl
    have hlen : strlen (l ++ [10]) = l.length + 1 := by
      rw [strlen_of_nul_free (by simpa using h0)]; simp
    have htake : l.take (MATCH_LINE_LENGTH - 1) = l := List.take_of_length_le (by omega)
    simp [readLine, hne, hbuf, hlen, htake]
  · have hlong : 511 ≤ l.length := by simp [MATCH_LINE_LENGTH] at hshort; omega
    have hbuf : fgetsBytes 511 (l ++ 10 :: rest) = l.take 511 := by
      rw [fgetsBytes_of_take] <;> rw [List.take_append_of_le_length hlong]
      exact fun h => hl (List.mem_of_mem_take h)
    have hlen : strlen (l.take 511) = 511 := by
      rw [strlen_of_nul_free (fun h => h0 (List.mem_of_mem_take h))]; simp; omega
    have hlast : l[510]? ≠ some 10 := fun h => hl (List.getElem?_mem h)
    have hrest : (l ++ 10 :: rest).drop (l.take 511).length = l.drop 511 ++ 10 :: rest := by
      rw [List.length_take, Nat.min_eq_left hlong, List.drop_append_of_le_length hlong]
    have hfgetc := fgetcToNewline_of_newline rest (fun h => hl (List.mem_of_mem_drop h))
      (l := l.drop 511)
    simp only [readLine, MATCH_LINE_LENGTH, hne, ite_false, Nat.reduceSub, hbuf, hlen, hrest,
      hfgetc, List.getElem?_take]
    simp [hlast]
    omega

/-- What follows the last newline, when it has no NUL bytes, stops the loop. -/
theorem readLine_incomplete {tail : List UInt8} (ht : 10 ∉ tail) (h0 : 0 ∉ tail) :
    readLine tail = .final := by
  by_cases hnil : tail = []
  · simp [readLine, hnil]
  have hbuf : fgetsBytes (MATCH_LINE_LENGTH - 1) tail = tail.take (MATCH_LINE_LENGTH - 1) :=
    fgetsBytes_of_take fun h => ht (List.mem_of_mem_take h)
  have hlen : strlen (tail.take (MATCH_LINE_LENGTH - 1)) =
      min (MATCH_LINE_LENGTH - 1) tail.length := by
    rw [strlen_of_nul_free (fun h => h0 (List.mem_of_mem_take h)), List.length_take]
  have hlast : (tail.take (MATCH_LINE_LENGTH - 1))[min (MATCH_LINE_LENGTH - 1) tail.length - 1]? ≠
      some 10 := fun h => ht (List.mem_of_mem_take (List.getElem?_mem h))
  have hpos : 0 < tail.length := List.length_pos.2 hnil
  simp only [readLine, hnil, ite_false, hbuf, hlen, hlast, ne_eq, not_false_eq_true, ite_true]
  split_ifs
  · rfl
  · rfl
  · split
    · rfl
    · next k hk =>
      rw [fgetcToNewline_none (fun h => ht (List.mem_of_mem_drop h))] at hk
      cases hk
  · omega

/-- On a file without NUL bytes, from `readpos` on a sequence of complete lines and then an
incomplete rest: the loop reads those lines, in order and each cut to 511 bytes, and stops
just past the last newline. -/
theorem readLines_of_nul_free {c : List UInt8} {readpos : Nat} {lines : List (List UInt8)}
    {tail : List UInt8} (hc : c.drop readpos = (lines.map (· ++ [10])).flatten ++ tail)
    (hl : ∀ l ∈ lines, 10 ∉ l ∧ 0 ∉ l) (ht : 10 ∉ tail) (h0 : 0 ∉ tail) :
    readLines c readpos =
      (lines.map (·.take (MATCH_LINE_LENGTH - 1)),
        readpos + ((lines.map (· ++ [10])).flatten).length) := by
  induction lines generalizing readpos with
  | nil =>
    rw [readLines]
    split
    · simp
    · next text length h =>
      rw [hc, List.map_nil, List.flatten_nil, List.nil_append, readLine_incomplete ht h0] at h
      cases h
  | cons l ls ih =>
    have hl1 := hl l (List.mem_cons_self l ls)
    have hread : readLine (c.drop readpos) =
        .line (l.take (MATCH_LINE_LENGTH - 1)) (l.length + 1) := by
      rw [hc]
      simpa using readLine_complete ((ls.map (· ++ [10])).flatten ++ tail) hl1.1 hl1.2
    have hdrop : c.drop (readpos + (l.length + 1)) = (ls.map (· ++ [10])).flatten ++ tail := by
      rw [← List.drop_drop, hc]
      simp
    have hrest := ih hdrop (fun l' hl' => hl l' (List.mem_cons_of_mem l hl'))
    rw [readLines]
    split
    · next h => rw [hread] at h; cases h
    · next text length h =>
      rw [hread] at h
      cases h
      simp only [hrest, List.map_cons, List.flatten_cons, List.length_append, List.length_cons,
        List.length_nil, Prod.mk.injEq, true_and]
      omega

/-! ## A file that grows

Between two cycles a log file grows at its end. A pass that handed a line on stopped at a
newline, or at a full buffer and then a newline, so it reads the same line from the longer
file; the loop over the longer file therefore reads what it read before and carries on from
where it stopped. Nothing here needs the file to be free of NUL bytes.
-/

theorem fgetsBytes_length_le (n : Nat) (l : List UInt8) : (fgetsBytes n l).length ≤ n := by
  induction n generalizing l with
  | zero => simp [fgetsBytes]
  | succ n ih =>
    cases l with
    | nil => simp [fgetsBytes]
    | cons b l => unfold fgetsBytes; split <;> simp [ih l]

/-- `fgets` reads the same bytes from a longer file once it stopped at a newline or filled
its count. -/
theorem fgetsBytes_append {n : Nat} {l : List UInt8} (more : List UInt8)
    (h : 10 ∈ fgetsBytes n l ∨ (fgetsBytes n l).length = n) :
    fgetsBytes n (l ++ more) = fgetsBytes n l := by
  induction n generalizing l with
  | zero => simp [fgetsBytes]
  | succ n ih =>
    cases l with
    | nil => simp [fgetsBytes] at h
    | cons b l =>
      by_cases hb : b = 10
      · simp [fgetsBytes, hb]
      · rw [List.cons_append]
        simp only [fgetsBytes, hb, if_false, List.mem_cons, List.length_cons,
          Nat.add_right_cancel_iff] at h ⊢
        rw [ih (h.imp_left fun h' => h'.resolve_left fun e => hb e.symm)]

/-- The `fgetc` loop finds the same newline in a longer file. -/
theorem fgetcToNewline_append {l : List UInt8} {k : Nat} (more : List UInt8)
    (h : fgetcToNewline l = some k) : fgetcToNewline (l ++ more) = some k := by
  induction l generalizing k with
  | nil => cases h
  | cons b l ih =>
    by_cases hb : b = 10
    · simpa [fgetcToNewline, hb] using h
    · rw [List.cons_append]
      simp only [fgetcToNewline, hb, if_false] at h ⊢
      obtain ⟨k', hk', rfl⟩ := Option.map_eq_some'.1 h
      rw [ih hk']
      rfl

/-- A pass that hands a line on hands the same line on, with the same `length`, from any
longer file. -/
theorem readLine_append {rest text : List UInt8} {length : Nat} (more : List UInt8)
    (h : readLine rest = .line text length) : readLine (rest ++ more) = .line text length := by
  obtain ⟨hne, -, -⟩ := readLine_eq_line h
  have hdrop : (rest ++ more).drop (fgetsBytes (MATCH_LINE_LENGTH - 1) rest).length =
      rest.drop (fgetsBytes (MATCH_LINE_LENGTH - 1) rest).length ++ more :=
    List.drop_append_of_le_length (fgetsBytes_length_le_length _ rest)
  have hbound := fgetsBytes_length_le (MATCH_LINE_LENGTH - 1) rest
  unfold readLine at h ⊢
  rw [if_neg hne] at h
  rw [if_neg (by simp [hne])]
  dsimp only at h ⊢
  by_cases hlen : strlen (fgetsBytes (MATCH_LINE_LENGTH - 1) rest) = 0
  · rw [if_pos hlen] at h; cases h
  rw [if_neg hlen] at h
  by_cases hnl : (fgetsBytes (MATCH_LINE_LENGTH - 1) rest)[strlen
      (fgetsBytes (MATCH_LINE_LENGTH - 1) rest) - 1]? ≠ some 10
  · rw [if_pos hnl] at h
    by_cases hshort : strlen (fgetsBytes (MATCH_LINE_LENGTH - 1) rest) < MATCH_LINE_LENGTH - 1
    · rw [if_pos hshort] at h; cases h
    -- the buffer is full
    have hfull : (fgetsBytes (MATCH_LINE_LENGTH - 1) rest).length = MATCH_LINE_LENGTH - 1 := by
      have : strlen (fgetsBytes (MATCH_LINE_LENGTH - 1) rest) ≤
          (fgetsBytes (MATCH_LINE_LENGTH - 1) rest).length := (List.takeWhile_sublist _).length_le
      omega
    rw [fgetsBytes_append more (.inr hfull), hdrop, if_neg hlen, if_pos hnl, if_neg hshort]
    rw [if_neg hshort] at h
    by_cases heq : strlen (fgetsBytes (MATCH_LINE_LENGTH - 1) rest) = MATCH_LINE_LENGTH - 1
    · -- the newline is found by the `fgetc` loop
      rw [if_pos heq] at h ⊢
      cases hk : fgetcToNewline (rest.drop (fgetsBytes (MATCH_LINE_LENGTH - 1) rest).length)
      · rw [hk] at h; cases h
      · rw [fgetcToNewline_append more hk]; rw [hk] at h; exact h
    · rw [if_neg heq] at h ⊢; exact h
  · -- the buffer ends at a newline
    rw [if_neg hnl] at h
    have h10 : 10 ∈ fgetsBytes (MATCH_LINE_LENGTH - 1) rest :=
      List.getElem?_mem (not_not.1 hnl)
    rw [fgetsBytes_append more (.inl h10), if_neg hlen, if_neg hnl]
    exact h

theorem readLines_final {c : List UInt8} {readpos : Nat} (h : readLine (c.drop readpos) = .final) :
    readLines c readpos = ([], readpos) := by
  rw [readLines]
  split
  · rfl
  · next h' => rw [h] at h'; cases h'

theorem readLines_line {c text : List UInt8} {readpos length : Nat}
    (h : readLine (c.drop readpos) = .line text length) :
    readLines c readpos =
      (text :: (readLines c (readpos + length)).1, (readLines c (readpos + length)).2) := by
  rw [readLines]
  split
  · next h' => rw [h] at h'; cases h'
  · next h' => rw [h] at h'; cases h'; rfl

/-- Reading a file that has grown reads what the shorter file gave, and then carries on
from the position where that read stopped. -/
theorem readLines_append (c more : List UInt8) (readpos : Nat) :
    readLines (c ++ more) readpos =
      ((readLines c readpos).1 ++ (readLines (c ++ more) (readLines c readpos).2).1,
        (readLines (c ++ more) (readLines c readpos).2).2) := by
  induction readpos using readLines.induct c with
  | case1 readpos h => simp [readLines_final h]
  | case2 readpos text length h ih =>
    have hle : readpos ≤ c.length := by
      by_contra hgt
      rw [List.drop_eq_nil_of_le (by omega), readLine] at h
      cases h
    have hmore : readLine ((c ++ more).drop readpos) = .line text length := by
      rw [List.drop_append_of_le_length hle]
      exact readLine_append more h
    rw [readLines_line hmore, readLines_line h, ih]
    rfl

/-- The loop never moves back, and from a position inside the file stops inside it. -/
theorem readLines_snd_le {c : List UInt8} {readpos : Nat} (h : readpos ≤ c.length) :
    readpos ≤ (readLines c readpos).2 ∧ (readLines c readpos).2 ≤ c.length := by
  induction readpos using readLines.induct c with
  | case1 readpos hf => simp [readLines_final hf, h]
  | case2 readpos text length hl ih =>
    obtain ⟨hne, hpos, -⟩ := readLine_eq_line hl
    have hlen : readpos + length ≤ c.length := by
      have := (readLine_eq_line hl).2.2.2
      rw [List.length_drop] at this
      omega
    rw [readLines_line hl]
    have := ih hlen
    omega

end MonitValidation.Content
