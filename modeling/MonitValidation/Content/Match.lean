import MonitValidation.Content.Read

/-!
# Content matching: `check_match`

The body of the read loop tests each line against the ignore list and then the match list:
a line any ignore pattern hits (`(check_pattern(ml, line) == 0) ^ ml->not`) is skipped, and
every match pattern that hits appends the line to its log, until the log reaches
`MATCH_LINE_LENGTH` bytes and is closed with `"...\n"`. After the loop every match pattern
posts `Content CHANGED` with its log, which it frees, or `CHANGEDNOT`.

`check_pattern` is `regexec` or `strstr` on the pattern's text, outside this file; it is a
parameter `pattern` here. The results: on a file without NUL bytes `check_match` examines
exactly the complete lines after its read position and stops past the last newline; each
pattern's event is decided by the lines that hit it, with the log text the lines make, cut
after the first line that reaches `MATCH_LINE_LENGTH` bytes; and every log is freed on
return. When the file cannot be opened nothing is posted.
-/

namespace MonitValidation.Content

/-! ## One line -/

/-- `"...\n"`. -/
def ellipsis : List UInt8 := [46, 46, 46, 10]

/-- `StringBuffer_append(ml->log, "%s\n", line)` under the guards of `check_match`: below
`MATCH_LINE_LENGTH` bytes the line and a newline are appended, and `"...\n"` after them once
the log has reached it. A missing log is created empty. -/
def appendLog (line : List UInt8) (log : Option (List UInt8)) : Option (List UInt8) :=
  let buf := log.getD []
  if buf.length < MATCH_LINE_LENGTH then
    let buf := buf ++ line ++ [10]
    some (if buf.length ≥ MATCH_LINE_LENGTH then buf ++ ellipsis else buf)
  else some buf

/-- Whether a pattern hits a line: `(check_pattern(ml, line) == 0) ^ ml->not`. -/
def hits (pattern : String → List UInt8 → Bool) (m : Match) (line : List UInt8) : Bool :=
  xor (pattern m.match_string line) m.not

/-- The body of the loop for one line: skipped when an ignore pattern hits it (`goto next`),
else appended to the log of every match pattern that hits it. -/
def examineLine (pattern : String → List UInt8 → Bool) (ignores : List Match)
    (ms : List Match) (line : List UInt8) : List Match :=
  if ignores.any fun i => hits pattern i line then ms
  else ms.map fun m => if hits pattern m line then { m with log := appendLog line m.log } else m

/-- After `final:`: each match pattern, the `i`-th, posts `CHANGED` with its log and frees
it, or posts `CHANGEDNOT`. -/
def postMatches (ms : List Match) : List Match × List Event :=
  (ms.map fun m => { m with log := none },
    forEachFrom (fun i m =>
      match m.log with
      | some log => [post .content .changed (.matchRule i) "content match:\n%s" [.bytes log]]
      | none => [post .content .changedNot (.matchRule i) "content doesn't match" []]) 0 ms)

/-! ## The logs -/

/-- The log text the tests build for one pattern from the lines that hit it: the lines in
order, each followed by a newline, cut after the first line that brings the text to
`MATCH_LINE_LENGTH` bytes or more, which is then followed by `"...\n"`. -/
def matchedText : List UInt8 → List (List UInt8) → List UInt8
  | acc, [] => acc
  | acc, l :: ls =>
    let acc := acc ++ l ++ [10]
    if acc.length ≥ MATCH_LINE_LENGTH then acc ++ ellipsis else matchedText acc ls

theorem foldl_appendLog_of_full {acc : List UInt8} (h : MATCH_LINE_LENGTH ≤ acc.length)
    (ls : List (List UInt8)) : ls.foldl (fun log l => appendLog l log) (some acc) = some acc := by
  induction ls with
  | nil => rfl
  | cons l ls ih => simpa [appendLog, Nat.not_lt.2 h] using ih

theorem foldl_appendLog {acc : List UInt8} (h : acc.length < MATCH_LINE_LENGTH)
    (ls : List (List UInt8)) :
    ls.foldl (fun log l => appendLog l log) (some acc) = some (matchedText acc ls) := by
  induction ls generalizing acc with
  | nil => rfl
  | cons l ls ih =>
    simp only [List.foldl_cons, appendLog, Option.getD_some, h, ite_true, matchedText]
    split
    · next hge => exact foldl_appendLog_of_full (by simp only [List.length_append] at hge ⊢; omega) ls
    · exact ih (by omega)

/-- The log of a pattern, created on its first hit, is `matchedText` of the lines that hit. -/
theorem foldl_appendLog_none (ls : List (List UInt8)) :
    ls.foldl (fun log l => appendLog l log) none =
      if ls = [] then none else some (matchedText [] ls) := by
  cases ls with
  | nil => rfl
  | cons l ls =>
    have h : appendLog l none = appendLog l (some []) := rfl
    rw [List.foldl_cons, h, ← List.foldl_cons, foldl_appendLog (by decide)]
    rfl

/-- Lines of fewer than `MATCH_LINE_LENGTH` bytes make a text of fewer than
`2 * MATCH_LINE_LENGTH + 4`: the last line appended may overshoot by one line. -/
theorem matchedText_length {acc : List UInt8} {ls : List (List UInt8)}
    (hacc : acc.length < MATCH_LINE_LENGTH) (hls : ∀ l ∈ ls, l.length < MATCH_LINE_LENGTH) :
    (matchedText acc ls).length < 2 * MATCH_LINE_LENGTH + 4 := by
  induction ls generalizing acc with
  | nil => simp only [matchedText]; omega
  | cons l ls ih =>
    have hl := hls l (List.mem_cons_self l ls)
    simp only [matchedText]
    split
    · simp [ellipsis]; omega
    · exact ih (by simp at *; omega) (fun l' h' => hls l' (List.mem_cons_of_mem l h'))

/-- The lines the loop reads are cut to the buffer: fewer than `MATCH_LINE_LENGTH` bytes. -/
theorem readLine_text_length {rest text : List UInt8} {length : Nat}
    (h : readLine rest = .line text length) : text.length < MATCH_LINE_LENGTH := by
  obtain ⟨-, -, ⟨k, rfl⟩, -⟩ := readLine_eq_line h
  calc (List.take k (fgetsBytes (MATCH_LINE_LENGTH - 1) rest)).length
      ≤ (fgetsBytes (MATCH_LINE_LENGTH - 1) rest).length := List.length_take_le' _ _
    _ ≤ MATCH_LINE_LENGTH - 1 := fgetsBytes_length_le _ rest
    _ < MATCH_LINE_LENGTH := by decide

theorem readLines_length {c : List UInt8} {readpos : Nat} :
    ∀ l ∈ (readLines c readpos).1, l.length < MATCH_LINE_LENGTH := by
  induction readpos using readLines.induct c with
  | case1 readpos h => rw [readLines]; split <;> simp_all
  | case2 readpos text length h ih =>
    rw [readLines]
    split
    · simp
    · next text' length' h' =>
      rw [h] at h'
      cases h'
      simp only [List.mem_cons, forall_eq_or_imp]
      exact ⟨readLine_text_length h, ih⟩

/-! ## What the tests leave -/

/-- The ignore list decides for the whole line; every match pattern then logs exactly the
lines that are kept and that it hits. -/
theorem foldl_examineLine (pattern : String → List UInt8 → Bool) (ignores : List Match)
    (lines : List (List UInt8)) (ms : List Match) :
    lines.foldl (examineLine pattern ignores) ms =
      ms.map fun m => { m with log :=
        ((lines.filter fun l => !(ignores.any fun i => hits pattern i l) && hits pattern m l).foldl
          (fun log l => appendLog l log) m.log) } := by
  induction lines generalizing ms with
  | nil => simp
  | cons l ls ih =>
    rw [List.foldl_cons, ih]
    unfold examineLine
    split
    · next hig => simp [hig]
    · next hig =>
      have hkeep : (!(ignores.any fun i => hits pattern i l)) = true := by simpa using hig
      rw [List.map_map]
      refine List.map_congr_left fun m _ => ?_
      by_cases hm : hits pattern m l
      · simp only [Function.comp_apply, hm, hkeep, ite_true, List.filter_cons, Bool.true_and,
          List.foldl_cons]
        rfl
      · simp only [Function.comp_apply, hm, hkeep, ite_false, Bool.false_eq_true, List.filter_cons,
          Bool.true_and]

/-! ## `check_match` -/

/-- `Str_startsWith(a, b)` of libmonit: whether the text `a` starts with `b`. -/
def strStartsWith (a b : String) : Bool := b.toList.isPrefixOf a.toList

/-- Where `check_match` starts reading, and whether it skips reading because the file
neither changed its inode nor grew (`goto final`). Under `/proc` it always reads from `0`. -/
def matchStart (s : Service) : Nat × Bool :=
  if strStartsWith s.path "/proc" then (0, false)
  else
    let f := s.inf.file
    let readpos := if f.st_ino ≠ f.st_ino_prev ∨ f.readpos > f.st_size then 0 else f.readpos
    (readpos, readpos = f.st_size)

/-- `check_match(s)`: `file` is the content `fopen` gives access to, `none` when it fails. -/
def checkMatch (pattern : String → List UInt8 → Bool) (file : Option (List UInt8))
    (s : Service) : Service × List Event :=
  match file with
  | none => (s, [])
  | some c =>
    let start := matchStart s
    let r := if start.2 then (start.1, s.matchlist)
      else readLoop (examineLine pattern s.matchignorelist) c start.1 s.matchlist
    let p := postMatches r.2
    ({ s with inf := { s.inf with file := { s.inf.file with readpos := r.1 } },
              matchlist := p.1 }, p.2)

/-- The lines one call of `check_match` on the content `c` hands to the tests. -/
def examinedLines (c : List UInt8) (s : Service) : List (List UInt8) :=
  if (matchStart s).2 then [] else (readLines c (matchStart s).1).1

/-- The read position one call of `check_match` on the content `c` leaves. -/
def finalReadpos (c : List UInt8) (s : Service) : Nat :=
  if (matchStart s).2 then (matchStart s).1 else (readLines c (matchStart s).1).2

/-- `check_match` on a file it could open: the tests see `examinedLines`, one after another,
and `postMatches` posts what they left. -/
theorem checkMatch_some (pattern : String → List UInt8 → Bool) (c : List UInt8) (s : Service) :
    let p := postMatches ((examinedLines c s).foldl (examineLine pattern s.matchignorelist)
      s.matchlist)
    checkMatch pattern (some c) s =
      ({ s with inf := { s.inf with file := { s.inf.file with readpos := finalReadpos c s } },
                matchlist := p.1 }, p.2) := by
  unfold checkMatch examinedLines finalReadpos
  split <;> simp_all [readLoop_eq_readLines]


/-- The pattern's event as the tests left its log. -/
theorem postMatches_events_key (i : Nat) (m : Match) :
    ∀ e ∈ (match m.log with
      | some log => [post .content .changed (.matchRule i) "content match:\n%s" [.bytes log]]
      | none => [post .content .changedNot (.matchRule i) "content doesn't match" []]),
      e.key = (.content, .matchRule i) := by
  cases m.log <;> simp

theorem matchRuleKey_injective :
    Function.Injective fun i => ((.content, .matchRule i) : EventKind × ActionRef) :=
  fun _ _ h => by simpa using h

theorem examinedLines_length (c : List UInt8) (s : Service) :
    ∀ l ∈ examinedLines c s, l.length < MATCH_LINE_LENGTH := by
  unfold examinedLines
  split
  · simp
  · exact readLines_length

/-- For a file `check_match` can open, with the logs empty on entry as every call leaves
them: every match pattern posts exactly one `Content` event, `CHANGED` exactly when some
examined line that no ignore pattern hits is hit by the pattern, with the text
`matchedText` of those lines (shorter than `2 * MATCH_LINE_LENGTH + 4` bytes), and
`CHANGEDNOT` otherwise; and every log is freed on return. -/
theorem checkMatch_content_events (pattern : String → List UInt8 → Bool) (c : List UInt8)
    (s : Service) (hlogs : ∀ m ∈ s.matchlist, m.log = none) :
    let lines := examinedLines c s
    let kept := fun l => !(s.matchignorelist.any fun i => hits pattern i l)
    let r := checkMatch pattern (some c) s
    (∀ m ∈ r.1.matchlist, m.log = none) ∧
    ∀ j m, s.matchlist[j]? = some m →
      let text := matchedText [] (lines.filter fun l => kept l && hits pattern m l)
      r.2.filter (fun e => e.key = (.content, .matchRule j)) =
        [if lines.any (fun l => kept l && hits pattern m l) then
          post .content .changed (.matchRule j) "content match:\n%s" [.bytes text]
        else post .content .changedNot (.matchRule j) "content doesn't match" []] ∧
      text.length < 2 * MATCH_LINE_LENGTH + 4 := by
  intro lines kept r
  have hr := checkMatch_some pattern c s
  rw [foldl_examineLine] at hr
  refine ⟨fun m hm => ?_, fun j m hm => ?_⟩
  · simp only [r, hr, postMatches, List.map_map, List.mem_map] at hm
    obtain ⟨_, -, rfl⟩ := hm
    rfl
  · have hj : (s.matchlist.map fun m => { m with log :=
        ((lines.filter fun l => kept l && hits pattern m l).foldl
          (fun log l => appendLog l log) m.log) })[j]? =
        some { m with log := ((lines.filter fun l => kept l && hits pattern m l).foldl
          (fun log l => appendLog l log) none) } := by
      simp [hm, hlogs m (List.getElem?_mem hm)]
    have hfilter := forEachFrom_filter_key matchRuleKey_injective
      postMatches_events_key hj 0
    rw [Nat.zero_add] at hfilter
    refine ⟨?_, matchedText_length (by decide) fun l hl =>
      examinedLines_length c s l (List.mem_of_mem_filter hl)⟩
    simp only [r, hr, postMatches]
    rw [hfilter, foldl_appendLog_none]
    by_cases hany : lines.any (fun l => kept l && hits pattern m l) = true
    · have hne : lines.filter (fun l => kept l && hits pattern m l) ≠ [] := by
        simpa [List.filter_eq_nil_iff] using hany
      simp only [hne, ite_false, hany, ite_true]
    · have hnil : lines.filter (fun l => kept l && hits pattern m l) = [] := by
        simpa [List.filter_eq_nil_iff] using hany
      simp only [hnil, ite_true, hany, Bool.false_eq_true, ite_false]

/-- The file `"a\n"` and one pattern that hits every line: the line is logged and posted. -/
theorem checkMatch_content_events_one_line :
    let s : Service := { (default : Service) with
      path := "/var/log/app.log",
      inf := { (default : Info) with file := { (default : FileInfo) with st_size := 2 } },
      matchlist := [⟨"", false, none⟩] }
    (checkMatch (fun _ _ => true) (some [97, 10]) s).2.filter
        (fun e => e.key = (.content, .matchRule 0)) =
      [post .content .changed (.matchRule 0) "content match:\n%s" [.bytes [97, 10]]] := by
  intro s
  have hlines : examinedLines [97, 10] s = [[97]] := by
    have hstart : matchStart s = (0, false) := by decide
    simp only [examinedLines, hstart, ite_false]
    rw [@readLines_of_nul_free [97, 10] 0 [[97]] [] (by decide) (by decide) (by decide)
      (by decide)]
    rfl
  have h := ((checkMatch_content_events (fun _ _ => true) [97, 10] s
    (by simp [s])).2 0 ⟨"", false, none⟩ rfl).1
  simpa [hlines, hits, matchedText, MATCH_LINE_LENGTH] using h

/-- A file `fopen` cannot open: `check_match` returns at once, and its one match pattern posts
neither `CHANGED` nor `CHANGEDNOT`. -/
theorem checkMatch_unopened_posts_nothing :
    let s : Service := { (default : Service) with matchlist := [⟨"error", false, none⟩] }
    s.matchlist.length = 1 ∧ (checkMatch (fun _ _ => true) none s).2 = [] :=
  ⟨rfl, rfl⟩

/-! ## Which lines are examined -/

/-- On a file without NUL bytes, whose bytes from the read position on are complete lines and
then an incomplete rest: `check_match` examines exactly those lines, in order, each cut to
511 bytes, and leaves the read position just past the last newline. -/
theorem checkMatch_examines_complete_lines (pattern : String → List UInt8 → Bool)
    {c : List UInt8} {s : Service} (hsize : c.length = s.inf.file.st_size)
    {lines : List (List UInt8)} {tail : List UInt8}
    (hc : c.drop (matchStart s).1 = (lines.map (· ++ [10])).flatten ++ tail)
    (hl : ∀ l ∈ lines, 10 ∉ l ∧ 0 ∉ l) (ht : 10 ∉ tail) (h0 : 0 ∉ tail) :
    examinedLines c s = lines.map (·.take (MATCH_LINE_LENGTH - 1)) ∧
    (checkMatch pattern (some c) s).1.inf.file.readpos =
      (matchStart s).1 + ((lines.map (· ++ [10])).flatten).length := by
  have hread := readLines_of_nul_free hc hl ht h0
  have hpos : (checkMatch pattern (some c) s).1.inf.file.readpos = finalReadpos c s := by
    rw [checkMatch_some]
  rw [hpos]
  unfold examinedLines finalReadpos
  split
  · next hskip =>
    -- nothing was appended: the read position is the end of the file
    have hend : (matchStart s).1 = c.length := by
      unfold matchStart at hskip ⊢
      split at hskip <;> simp_all
    rw [hend, List.drop_length] at hc
    have hnil : lines = [] := by
      cases lines with
      | nil => rfl
      | cons l ls => simp at hc
    subst hnil
    simp
  · rw [hread]
    exact ⟨rfl, rfl⟩

/-- The file `"ab\nc"`: the complete line `"ab"` is examined, the incomplete `"c"` is left for
a later cycle, and the read position moves to `3`. -/
theorem checkMatch_examines_complete_lines_two_lines :
    let s : Service := { (default : Service) with
      path := "/var/log/app.log",
      inf := { (default : Info) with file := { (default : FileInfo) with st_size := 4 } } }
    examinedLines [97, 98, 10, 99] s = [[97, 98]] ∧
      (checkMatch (fun _ _ => true) (some [97, 98, 10, 99]) s).1.inf.file.readpos = 3 := by
  intro s
  have hstart : matchStart s = (0, false) := by decide
  have h := @checkMatch_examines_complete_lines (fun _ _ => true) [97, 98, 10, 99] s rfl
    [[97, 98]] [99] (by rw [hstart]; decide) (by decide) (by decide) (by decide)
  simpa [hstart, MATCH_LINE_LENGTH] using h

/-- The file `"a\0\nb\n"` read from its start: `fgets` reads `"a\0\n"`, but `strlen`
stops at the NUL, so the line looks incomplete and the loop stops at once. No line is
examined, the pattern that hits every line posts `CHANGEDNOT`, and `readpos` stays `0`, so
every later cycle stops at the same place. -/
theorem checkMatch_nul_byte_stalls :
    let s : Service := { (default : Service) with
      path := "/var/log/app.log",
      inf := { (default : Info) with file := { (default : FileInfo) with st_size := 5 } },
      matchlist := [⟨"", false, none⟩] }
    let r := checkMatch (fun _ _ => true) (some [97, 0, 10, 98, 10]) s
    r.1.inf.file.readpos = 0 ∧ r.2.map Event.state = [.changedNot] ∧
      r.1.inf.file.readpos = s.inf.file.readpos := by
  intro s r
  have hstart : matchStart s = (0, false) := by decide
  have hread : readLine ([97, 0, 10, 98, 10] : List UInt8) = .final := by decide
  have hloop : readLines [97, 0, 10, 98, 10] 0 = ([], 0) := by
    rw [readLines]
    split
    · rfl
    · next h => rw [List.drop_zero, hread] at h; cases h
  simp only [r, checkMatch_some, examinedLines, finalReadpos, hstart, hloop]
  decide

end MonitValidation.Content
