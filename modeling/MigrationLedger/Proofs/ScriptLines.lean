import MigrationLedger.Checksum
import MigrationLedger.Proofs.ByteOrder

/-!
# What a checksum sees of a script

A checksum sees the lines of a script: what stands between line feeds once the byte order mark is
gone and every line end is a line feed, without the empty rest behind the last of them.  The lines
are defined here in terms of their own, by replacing one text by another from the left, and the
steps of a checksum are proved to come to the same.  The octets of each line are followed by a line
feed, and no line holds one, so that the lines can be told from the octets.  Two scripts with the
same lines therefore never look changed, and two with different lines are never taken for one
another before their digests are.

Scripts that are taken together feed their lines one after the other.  What is fed does not show
where a piece ends, only that a line ends there.

## Main definitions

* `Text.replaceAll` — a text with everything that is found in it from the left replaced.
* `Checksum.unmarked`, `Checksum.segments`, `Checksum.lines` — a text without its mark, what stands
  between line feeds, and the lines.
* `Checksum.octets` — the octets of lines, with a line feed after each.
* `Checksum.writeEnds` — a text with its line feeds written in another way.
* `Checksum.Alike` — two scripts that a checksum does not tell apart.

## Main results

* `Checksum.segments_eq` — the mark and the line ends go in the steps of a checksum as they go here.
* `Checksum.readLines_eq` — a line reader finds what stands between line feeds, without an empty
  rest.
* `Checksum.fedAll_eq` — each line is fed with a line feed after it.
* `Checksum.fedAll_eq_iff` — **what is fed is known by the lines, and they by it.**
* `Checksum.unifyLineEnds_pairs`, `Checksum.unifyLineEnds_returns` — how the lines end leaves no
  trace.
* `checksum_sees_lines` — all of this about scripts.
-/

namespace MigrationLedger

namespace Text

/-! ### Replacing from the left -/

/-- A text with every `old` that is found from the left replaced by `new`.  The first `skip`
characters belong to one that was found before, and go with it. -/
def replaceFrom (old new : List Char) : Nat → List Char → List Char
  | _, [] => []
  | skip + 1, _ :: cs => replaceFrom old new skip cs
  | 0, c :: cs =>
    if old <+: c :: cs then new ++ replaceFrom old new (old.length - 1) cs
    else c :: replaceFrom old new 0 cs

/-- A text with every `old` that is found from the left replaced by `new`. -/
def replaceAll (old new cs : List Char) : List Char := replaceFrom old new 0 cs

variable {old new : List Char}

theorem replaceFrom_append (found cs : List Char) :
    replaceFrom old new found.length (found ++ cs) = replaceAll old new cs := by
  induction found with
  | nil => rfl
  | cons c found ih => exact ih

/-- What is found is replaced, and the search goes on behind it. -/
theorem replaceAll_append (h : old ≠ []) (new cs : List Char) :
    replaceAll old new (old ++ cs) = new ++ replaceAll old new cs := by
  obtain ⟨c, rest, rfl⟩ := List.exists_cons_of_ne_nil h
  have hfound : c :: rest <+: c :: (rest ++ cs) := List.prefix_append (c :: rest) cs
  rw [← replaceFrom_append rest cs, replaceAll, List.cons_append, replaceFrom, if_pos hfound,
    List.length_cons, Nat.add_sub_cancel]

/-- Where nothing begins that is replaced, a character stays. -/
theorem replaceAll_cons {c : Char} {cs : List Char} (h : ¬ old <+: c :: cs) (new : List Char) :
    replaceAll old new (c :: cs) = c :: replaceAll old new cs := by
  rw [replaceAll, replaceFrom, if_neg h]
  rfl

end Text

namespace Checksum

variable {cs ds : List Char} {parts ls ms : List (List Char)} {c : Char}

/-! ### Lines -/

/-- The text without the byte order mark that it may begin with. -/
def unmarked (cs : List Char) : List Char := if cs.head? = some '\ufeff' then cs.tail else cs

/-- What stands between the line feeds of a script, once its mark is gone and every pair of carriage
return and line feed, and then every carriage return that is left, is a line feed. -/
def segments (content : String) : List (List Char) :=
  (Text.replaceAll ['\r'] ['\n']
    (Text.replaceAll ['\r', '\n'] ['\n'] (unmarked content.toList))).splitOn '\n'

/-- The list without a last element that is empty. -/
def dropLastEmpty (parts : List (List Char)) : List (List Char) :=
  if parts.getLast? = some [] then parts.dropLast else parts

/-- The lines of a script. -/
def lines (content : String) : List (List Char) := dropLastEmpty (segments content)

theorem dropLastEmpty_cons (part : List Char) (h : parts ≠ []) :
    dropLastEmpty (part :: parts) = part :: dropLastEmpty parts := by
  obtain ⟨q, qs, rfl⟩ := List.exists_cons_of_ne_nil h
  rw [dropLastEmpty, dropLastEmpty, List.getLast?_cons_cons, List.dropLast_cons_cons]
  split <;> rfl

theorem dropLastEmpty_concat_nil (parts : List (List Char)) :
    dropLastEmpty (parts ++ [[]]) = parts := by
  simp [dropLastEmpty]

theorem dropLastEmpty_eq_self (h : parts.getLast? ≠ some []) : dropLastEmpty parts = parts :=
  if_neg h

theorem mem_of_mem_dropLastEmpty {part : List Char} (h : part ∈ dropLastEmpty parts) :
    part ∈ parts := by
  rw [dropLastEmpty] at h
  split at h
  · exact List.dropLast_subset parts h
  · exact h

/-! ### A line reader -/

theorem readLines_feed (cs : List Char) : readLines ('\n' :: cs) = [] :: readLines cs := by
  rw [readLines]

theorem readLines_cons (hreturn : c ≠ '\r') (hfeed : c ≠ '\n') :
    readLines (c :: cs) = extendFirst c (readLines cs) := by
  rw [readLines]
  · rintro ds rfl
    exact absurd rfl hreturn
  · exact hfeed

/-- A character that is put before the first part stands in a line, if only in one of its own. -/
theorem dropLastEmpty_modifyHead (c : Char) (h : parts ≠ []) :
    dropLastEmpty (parts.modifyHead (List.cons c)) = extendFirst c (dropLastEmpty parts) := by
  obtain ⟨part, rest, rfl⟩ := List.exists_cons_of_ne_nil h
  rw [List.modifyHead_cons]
  cases rest with
  | nil =>
    cases part <;> rfl
  | cons q qs =>
    rw [dropLastEmpty_cons _ (List.cons_ne_nil q qs), dropLastEmpty_cons _ (List.cons_ne_nil q qs)]
    rfl

/-- **A line reader finds what stands between line feeds, without an empty rest.** -/
theorem readLines_eq (h : '\r' ∉ cs) : readLines cs = dropLastEmpty (cs.splitOn '\n') := by
  induction cs with
  | nil => rfl
  | cons c cs ih =>
    obtain ⟨hc, hcs⟩ := List.ne_and_not_mem_of_not_mem_cons h
    rw [List.splitOn_cons_eq_if_modifyHead]
    by_cases hfeed : c = '\n'
    · rw [if_pos (beq_iff_eq.2 hfeed), dropLastEmpty_cons _ (List.splitOn_ne_nil '\n' cs), ← ih hcs,
        hfeed, readLines_feed]
    · rw [if_neg (by simpa using hfeed), dropLastEmpty_modifyHead c (List.splitOn_ne_nil '\n' cs),
        ← ih hcs, readLines_cons (Ne.symm hc) hfeed]

/-! ### Line ends -/

theorem turnReturn_of_ne (h : c ≠ '\r') : turnReturn c = c := if_neg h

theorem turnReturn_ne_return (c : Char) : turnReturn c ≠ '\r' := by
  unfold turnReturn
  split
  · decide
  · assumption

theorem unifyLineEnds_cons (h : c ≠ '\r') : unifyLineEnds (c :: cs) = c :: unifyLineEnds cs := by
  rw [unifyLineEnds, joinPairs, List.map_cons, turnReturn_of_ne h]
  · rfl
  · rintro ds rfl
    exact absurd rfl h

theorem unifyLineEnds_return (h : cs.head? ≠ some '\n') :
    unifyLineEnds ('\r' :: cs) = '\n' :: unifyLineEnds cs := by
  rw [unifyLineEnds, joinPairs]
  · rfl
  · rintro ds - rfl
    exact absurd rfl h

theorem return_notMem_unifyLineEnds (cs : List Char) : '\r' ∉ unifyLineEnds cs := by
  intro h
  obtain ⟨c, -, hc⟩ := List.mem_map.1 h
  exact turnReturn_ne_return c hc

/-- Without carriage returns all line ends are line feeds already. -/
theorem unifyLineEnds_eq_self (h : '\r' ∉ cs) : unifyLineEnds cs = cs := by
  induction cs with
  | nil => rfl
  | cons c cs ih =>
    obtain ⟨hc, hcs⟩ := List.ne_and_not_mem_of_not_mem_cons h
    rw [unifyLineEnds_cons (Ne.symm hc), ih hcs]

/-- A text with its line feeds written in another way. -/
def writeEnds (ending cs : List Char) : List Char :=
  cs.flatMap fun c => if c = '\n' then ending else [c]

theorem writeEnds_feed (ending cs : List Char) :
    writeEnds ending ('\n' :: cs) = ending ++ writeEnds ending cs := rfl

theorem writeEnds_cons (ending : List Char) (h : c ≠ '\n') :
    writeEnds ending (c :: cs) = c :: writeEnds ending cs := by
  rw [writeEnds, List.flatMap_cons, if_neg h]
  rfl

theorem head?_writeEnds {ending : List Char} (h : ending.head? = some '\r') (cs : List Char) :
    (writeEnds ending cs).head? = cs.head?.map fun c => if c = '\n' then '\r' else c := by
  cases cs with
  | nil => rfl
  | cons c cs =>
    by_cases hfeed : c = '\n'
    · subst hfeed
      rw [writeEnds_feed, List.head?_append, h]
      rfl
    · rw [writeEnds_cons _ hfeed, List.head?_cons, List.head?_cons, Option.map_some, if_neg hfeed]

/-- A text with its line feeds written in another way begins with none of them, and with nothing
that the text does not begin with, the carriage return apart. -/
theorem head?_writeEnds_ne {ending : List Char} (h : ending.head? = some '\r') {d : Char}
    (hreturn : d ≠ '\r') (hd : d = '\n' ∨ cs.head? ≠ some d) :
    (writeEnds ending cs).head? ≠ some d := by
  rw [head?_writeEnds h]
  intro hsome
  obtain ⟨c, hc, hwritten⟩ := Option.map_eq_some_iff.1 hsome
  split at hwritten
  · exact hreturn hwritten.symm
  · next hfeed =>
    rcases hd with hd | hd
    · exact hfeed (hwritten.trans hd)
    · exact hd (hc.trans (congrArg some hwritten))

/-- **Line feeds that are written as pairs become line feeds again.** -/
theorem unifyLineEnds_pairs (h : '\r' ∉ cs) : unifyLineEnds (writeEnds ['\r', '\n'] cs) = cs := by
  induction cs with
  | nil => rfl
  | cons c cs ih =>
    obtain ⟨hc, hcs⟩ := List.ne_and_not_mem_of_not_mem_cons h
    by_cases hfeed : c = '\n'
    · subst hfeed
      rw [writeEnds_feed]
      exact congrArg ('\n' :: ·) (ih hcs)
    · rw [writeEnds_cons _ hfeed, unifyLineEnds_cons (Ne.symm hc), ih hcs]

/-- **Line feeds that are written as carriage returns become line feeds again.** -/
theorem unifyLineEnds_returns (h : '\r' ∉ cs) : unifyLineEnds (writeEnds ['\r'] cs) = cs := by
  induction cs with
  | nil => rfl
  | cons c cs ih =>
    obtain ⟨hc, hcs⟩ := List.ne_and_not_mem_of_not_mem_cons h
    by_cases hfeed : c = '\n'
    · subst hfeed
      rw [writeEnds_feed, List.singleton_append,
        unifyLineEnds_return (head?_writeEnds_ne rfl (by decide) (.inl rfl)), ih hcs]
    · rw [writeEnds_cons _ hfeed, unifyLineEnds_cons (Ne.symm hc), ih hcs]

/-! ### Marks -/

theorem dropMark_eq (cs : List Char) : dropMark cs = unmarked cs := by
  unfold dropMark
  split
  · rfl
  · next hmark =>
    refine (if_neg fun hhead => ?_).symm
    obtain ⟨ds, hds⟩ := List.head?_eq_some_iff.1 hhead
    exact hmark ds hds

theorem dropMark_eq_self (h : cs.head? ≠ some '\ufeff') : dropMark cs = cs :=
  (dropMark_eq cs).trans (if_neg h)

theorem mem_of_mem_dropMark (h : c ∈ dropMark cs) : c ∈ cs := by
  unfold dropMark at h
  split at h
  · exact List.mem_cons_of_mem _ h
  · exact h

/-- Line ends may be rewritten before the mark is dropped. -/
theorem dropMark_writeEnds {ending : List Char} (h : ending.head? = some '\r') (cs : List Char) :
    dropMark (writeEnds ending cs) = writeEnds ending (dropMark cs) := by
  by_cases hmark : cs.head? = some '\ufeff'
  · obtain ⟨ds, rfl⟩ := List.head?_eq_some_iff.1 hmark
    rw [writeEnds_cons _ (by decide)]
    rfl
  · have hhead : (writeEnds ending cs).head? ≠ some '\ufeff' :=
      head?_writeEnds_ne h (by decide) (.inr hmark)
    rw [dropMark_eq_self hhead, dropMark_eq_self hmark]

/-- A final line feed may be put behind a text before its mark is dropped. -/
theorem dropMark_append_feed (cs : List Char) :
    dropMark (cs ++ ['\n']) = dropMark cs ++ ['\n'] := by
  by_cases hmark : cs.head? = some '\ufeff'
  · obtain ⟨ds, rfl⟩ := List.head?_eq_some_iff.1 hmark
    rfl
  · have hhead : (cs ++ ['\n']).head? ≠ some '\ufeff' := by
      cases cs with
      | nil => decide
      | cons c cs => exact hmark
    rw [dropMark_eq_self hhead, dropMark_eq_self hmark]

/-- A final line feed leaves no empty line behind. -/
theorem splitOn_append_feed (cs : List Char) :
    (cs ++ ['\n']).splitOn '\n' = cs.splitOn '\n' ++ [[]] := by
  rw [List.splitOn_append_cons_self, List.splitOn_nil]

/-! ### The steps of a checksum -/

theorem joinPairs_eq (cs : List Char) :
    joinPairs cs = Text.replaceAll ['\r', '\n'] ['\n'] cs := by
  fun_induction joinPairs cs with
  | case1 cs ih =>
    have hfound := Text.replaceAll_append (List.cons_ne_nil '\r' ['\n']) ['\n'] cs
    rw [ih]
    exact hfound.symm
  | case2 c cs hpair ih =>
    have hnone : ¬ ['\r', '\n'] <+: c :: cs := by
      rintro ⟨ds, hds⟩
      obtain ⟨rfl, rfl⟩ := List.cons.inj hds
      exact hpair ds rfl rfl
    rw [Text.replaceAll_cons hnone, ih]
  | case3 => rfl

theorem map_turnReturn (cs : List Char) :
    cs.map turnReturn = Text.replaceAll ['\r'] ['\n'] cs := by
  induction cs with
  | nil => rfl
  | cons c cs ih =>
    rw [List.map_cons, ih]
    by_cases hreturn : c = '\r'
    · subst hreturn
      exact (Text.replaceAll_append (List.cons_ne_nil '\r' []) ['\n'] cs).symm
    · have hnone : ¬ ['\r'] <+: c :: cs := by
        rintro ⟨ds, hds⟩
        exact hreturn (List.cons.inj hds).1.symm
      rw [Text.replaceAll_cons hnone, turnReturn_of_ne hreturn]

/-- **The mark and the line ends go in the steps of a checksum as they go for the lines.** -/
theorem segments_eq (content : String) :
    segments content = (unifyLineEnds (dropMark content.toList)).splitOn '\n' := by
  rw [segments, unifyLineEnds, dropMark_eq, joinPairs_eq, map_turnReturn]

/-! ### What is fed -/

/-- The octets of lines, with a line feed after each of them. -/
def octets (ls : List (List Char)) : List UInt8 :=
  ls.flatMap fun line => Text.bytes (String.ofList line) ++ [10]

theorem encodeLine_eq (line : List Char) :
    encodeLine line = Text.bytes (String.ofList line) ++ [10] := by
  rw [Text.bytes_eq_flatMap, String.toList_ofList]
  rfl

/-- Lines with a line feed after each. -/
def terminated (ls : List (List Char)) : List Char := ls.flatMap (· ++ ['\n'])

theorem terminated_cons (line : List Char) (ls : List (List Char)) :
    terminated (line :: ls) = (line ++ ['\n']) ++ terminated ls := rfl

theorem octets_eq_bytes (ls : List (List Char)) :
    octets ls = Text.bytes (String.ofList (terminated ls)) := by
  induction ls with
  | nil => rfl
  | cons line ls ih =>
    have hcons : octets (line :: ls)
        = (Text.bytes (String.ofList line) ++ [10]) ++ octets ls := rfl
    rw [hcons, ih, terminated_cons]
    simp only [Text.bytes_eq_flatMap, String.toList_ofList, List.flatMap_append]
    rfl

/-- Lines can be told from their text, since none of them holds a line feed. -/
theorem splitOn_terminated (h : ∀ line ∈ ls, '\n' ∉ line) :
    (terminated ls).splitOn '\n' = ls ++ [[]] := by
  induction ls with
  | nil => rfl
  | cons line ls ih =>
    obtain ⟨hline, hls⟩ := List.forall_mem_cons.1 h
    rw [terminated_cons, List.append_assoc, List.singleton_append,
      List.splitOn_append_cons_self_of_not_mem hline, ih hls, List.cons_append]

/-- Lines can be told from their octets. -/
theorem octets_injective (hls : ∀ line ∈ ls, '\n' ∉ line) (hms : ∀ line ∈ ms, '\n' ∉ line)
    (h : octets ls = octets ms) : ls = ms := by
  rw [octets_eq_bytes, octets_eq_bytes] at h
  have hterminated : terminated ls = terminated ms :=
    String.ofList_injective (Text.bytes_injective h)
  have hsplit : ls ++ [[]] = ms ++ [[]] := by
    rw [← splitOn_terminated hls, ← splitOn_terminated hms, hterminated]
  exact List.append_cancel_right hsplit

theorem feed_notMem_of_mem_splitOn {part : List Char} (h : part ∈ cs.splitOn '\n') :
    '\n' ∉ part := by
  induction cs generalizing part with
  | nil =>
    rw [List.splitOn_nil, List.mem_singleton] at h
    rw [h]
    exact List.not_mem_nil
  | cons c cs ih =>
    rw [List.splitOn_cons_eq_if_modifyHead] at h
    by_cases hfeed : c = '\n'
    · rw [if_pos (beq_iff_eq.2 hfeed)] at h
      rcases List.mem_cons.1 h with rfl | h
      · exact List.not_mem_nil
      · exact ih h
    · obtain ⟨q, qs, hsplit⟩ := List.exists_cons_of_ne_nil (List.splitOn_ne_nil '\n' cs)
      rw [if_neg (by simpa using hfeed), hsplit, List.modifyHead_cons] at h
      rw [hsplit] at ih
      rcases List.mem_cons.1 h with rfl | h
      · rw [List.mem_cons, not_or]
        exact ⟨Ne.symm hfeed, ih List.mem_cons_self⟩
      · exact ih (List.mem_cons_of_mem q h)

theorem feed_notMem_of_mem_lines {content : String} {line : List Char} (h : line ∈ lines content) :
    '\n' ∉ line :=
  feed_notMem_of_mem_splitOn (mem_of_mem_dropLastEmpty h)

/-- **Each line of a script is fed, with a line feed after it.** -/
theorem fed_eq (content : String) : fed content = octets (lines content) := by
  rw [fed, readLines_eq (return_notMem_unifyLineEnds _), ← segments_eq]
  exact List.flatMap_congr fun line _ => encodeLine_eq line

theorem fedAll_eq (contents : List String) :
    fedAll contents = octets (contents.flatMap lines) := by
  rw [fedAll, octets, List.flatMap_assoc]
  exact List.flatMap_congr fun content _ => fed_eq content

/-- **What is fed is known by the lines, and they by it.** -/
theorem fedAll_eq_iff {contents others : List String} :
    fedAll contents = fedAll others ↔ contents.flatMap lines = others.flatMap lines := by
  have hfree : ∀ contents : List String, ∀ line ∈ contents.flatMap lines, '\n' ∉ line := by
    intro contents line hline
    obtain ⟨content, -, hmem⟩ := List.mem_flatMap.1 hline
    exact feed_notMem_of_mem_lines hmem
  rw [fedAll_eq, fedAll_eq]
  exact ⟨octets_injective (hfree contents) (hfree others), congrArg octets⟩

theorem fed_eq_iff {content other : String} : fed content = fed other ↔ lines content = lines other := by
  rw [← fedAll_singleton, ← fedAll_singleton, fedAll_eq_iff, List.flatMap_singleton,
    List.flatMap_singleton]

/-- **A checksum is that of the lines**, of one script or of several. -/
theorem ofPieces_eq (contents : List String) :
    ofPieces contents = (Sha256.digest (octets (contents.flatMap lines))).a.toInt32 := by
  rw [ofPieces, fedAll_eq]

theorem ofContent_eq (content : String) :
    ofContent content = (Sha256.digest (octets (lines content))).a.toInt32 := by
  rw [ofContent, ofPieces_eq, List.flatMap_singleton]

/-! ### What leaves no trace -/

/-- A checksum does not tell two scripts apart: the same is fed for them, and so they have one
checksum. -/
structure Alike (content other : String) : Prop where
  /-- What is fed. -/
  fed_eq : fed content = fed other
  /-- The checksums. -/
  ofContent_eq : ofContent content = ofContent other

theorem alike_of_lines_eq {content other : String} (h : lines content = lines other) :
    Alike content other :=
  ⟨fed_eq_iff.2 h, by rw [ofContent_eq, ofContent_eq, h]⟩

/-- The way line feeds are written leaves no trace. -/
theorem lines_writeEnds {ending : List Char} (hending : ending.head? = some '\r')
    (hunify : ∀ cs, '\r' ∉ cs → unifyLineEnds (writeEnds ending cs) = cs) {content : String}
    (h : '\r' ∉ content.toList) :
    lines (String.ofList (writeEnds ending content.toList)) = lines content := by
  have hfree : '\r' ∉ dropMark content.toList := fun hmem => h (mem_of_mem_dropMark hmem)
  rw [lines, segments_eq, String.toList_ofList, dropMark_writeEnds hending, hunify _ hfree, lines,
    segments_eq, unifyLineEnds_eq_self hfree]

/-- A line feed behind a last line that is not empty leaves no trace. -/
theorem lines_append_feed {content : String} (h : '\r' ∉ content.toList)
    (hlast : (segments content).getLast? ≠ some []) : lines (content ++ "\n") = lines content := by
  have hfree : '\r' ∉ dropMark content.toList := fun hmem => h (mem_of_mem_dropMark hmem)
  have hfree' : '\r' ∉ dropMark content.toList ++ ['\n'] := by
    rw [List.mem_append, not_or]
    exact ⟨hfree, by decide⟩
  have hsegments : segments (content ++ "\n") = segments content ++ [[]] := by
    have htext : (content ++ "\n").toList = content.toList ++ ['\n'] := String.toList_append ..
    rw [segments_eq, htext, dropMark_append_feed, unifyLineEnds_eq_self hfree',
      splitOn_append_feed, segments_eq, unifyLineEnds_eq_self hfree]
  rw [lines, hsegments, dropLastEmpty_concat_nil, lines, dropLastEmpty_eq_self hlast]

/-- A byte order mark leaves no trace, unless there is one already. -/
theorem lines_mark {content : String} (h : content.toList.head? ≠ some '\ufeff') :
    lines ("\ufeff" ++ content) = lines content := by
  have htext : ("\ufeff" ++ content).toList = '\ufeff' :: content.toList := String.toList_append ..
  have hmarked : unmarked ('\ufeff' :: content.toList) = content.toList := rfl
  have hmark : unmarked content.toList = content.toList := if_neg h
  rw [lines, segments, htext, hmarked, lines, segments, hmark]

end Checksum

open Checksum

/-- **A checksum sees exactly the lines of scripts.**  What is fed for a script is each of its lines,
with a line feed after it, and its checksum is the first word of the digest of that.  So the same is
fed for two scripts exactly when they have the same lines.  Of several pieces each feeds what it
feeds alone; where one ends shows in nothing but the end of a line.  How lines end, a line feed
behind a last line that is not empty and a byte order mark in front leave no trace. -/
theorem checksum_sees_lines :
    (∀ content, fed content = octets (lines content) ∧
      ofContent content = (Sha256.digest (octets (lines content))).a.toInt32) ∧
    (∀ content other, fed content = fed other ↔ lines content = lines other) ∧
    (∀ contents, fedAll contents = contents.flatMap fed ∧
      ofPieces contents = (Sha256.digest (octets (contents.flatMap lines))).a.toInt32) ∧
    (∀ contents others, fedAll contents = fedAll others ↔
      contents.flatMap lines = others.flatMap lines) ∧
    (∀ content, '\r' ∉ content.toList →
      Alike (String.ofList (writeEnds ['\r', '\n'] content.toList)) content ∧
      Alike (String.ofList (writeEnds ['\r'] content.toList)) content ∧
      ((segments content).getLast? ≠ some [] → Alike (content ++ "\n") content)) ∧
    ∀ content, content.toList.head? ≠ some '\ufeff' → Alike ("\ufeff" ++ content) content := by
  refine ⟨fun content => ⟨fed_eq content, ofContent_eq content⟩, fun content other => fed_eq_iff,
    fun contents => ⟨rfl, ofPieces_eq contents⟩, fun contents others => fedAll_eq_iff,
    fun content h => ⟨?_, ?_, fun hlast => ?_⟩, fun content h => ?_⟩
  · exact alike_of_lines_eq (lines_writeEnds rfl (fun cs => unifyLineEnds_pairs) h)
  · exact alike_of_lines_eq (lines_writeEnds rfl (fun cs => unifyLineEnds_returns) h)
  · exact alike_of_lines_eq (lines_append_feed h hlast)
  · exact alike_of_lines_eq (lines_mark h)

/-- A script with an empty line, whose last line has no end: with other line ends, a final line feed
or a mark the same is fed, and the checksum stays. -/
theorem checksum_sees_lines_unended :
    let script := "a\n\nb"
    lines script = [['a'], [], ['b']] ∧ fed script = [97, 10, 10, 98, 10] ∧
      Alike "a\r\n\r\nb" script ∧ Alike "a\r\rb" script ∧ Alike (script ++ "\n") script ∧
      Alike ("\ufeff" ++ script) script := by
  intro script
  have hreturn : '\r' ∉ script.toList := by decide
  have hlast : (segments script).getLast? ≠ some [] := by decide
  have hmark : script.toList.head? ≠ some '\ufeff' := by decide
  have hlines : lines script = [['a'], [], ['b']] := by decide
  obtain ⟨hfed, -, -, -, hends, hmarked⟩ := checksum_sees_lines
  obtain ⟨hpairs, hreturns, hfeed⟩ := hends script hreturn
  have htext : String.ofList (writeEnds ['\r', '\n'] script.toList) = "a\r\n\r\nb" := by decide
  have htext' : String.ofList (writeEnds ['\r'] script.toList) = "a\r\rb" := by decide
  rw [htext] at hpairs
  rw [htext'] at hreturns
  refine ⟨hlines, ?_, hpairs, hreturns, hfeed hlast, hmarked script hmark⟩
  rw [(hfed script).1, hlines]
  decide

end MigrationLedger
