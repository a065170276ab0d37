import Mathlib.Data.List.DropRight
import Mathlib.Data.List.SplitBy
import Mathlib.Tactic.Lemma
import SnippetRunner.Fault.Report

/-!
# The frames that reports show

A report shows an error after those that it is chained to, each with the frames that it went
through. Only the frames of the outermost error are cut to the stretch that lies in the snippet.

* `trims_framesWithin` says what is cut: the stretch holds all frames of the file, in order, and both
  of its ends are in the file.
* `frameLines_eq` says how frames are shown: one by one, or counted from the fourth equal one in a
  row on.
* `text_within` puts the text of a report together from those of its errors. `snippet_frames_shown`
  says when every error is shown as if it had been cut, and `outside_frame_shown` is an error of
  which another frame is shown.
-/

namespace SnippetRunner

/-! ## Blanks at the end of a text -/

namespace Text

lemma dropTrailing_append {p : Char → Bool} {cs e : List Char} (h : ∀ c ∈ e, p c = true) :
    dropTrailing p (cs ++ e) = dropTrailing p cs := by
  have hnone : e.reverse.dropWhile p = [] :=
    List.dropWhile_eq_nil_iff.mpr fun c hc => h c (List.mem_reverse.mp hc)
  rw [dropTrailing, dropTrailing, List.reverse_append, List.dropWhile_append, hnone]
  rfl

lemma isBlank_newline : isBlank '\n' = true := by cbv

/-- A line without a blank before its end loses nothing but the end. -/
lemma stripRight_newline (text : String) {last : String} (c : Char)
    (hlast : last.toList.getLast? = some c) (hblank : isBlank c = false) :
    stripRight (text ++ last ++ "\n") = text ++ last := by
  have hend : (text ++ last).toList.getLast? = some c := by
    rw [String.toList_append, List.getLast?_append, hlast, Option.some_or]
  have hkept : dropTrailing isBlank (text ++ last).toList = (text ++ last).toList := by
    refine List.rdropWhile_eq_self_iff.mpr fun hne => ?_
    rw [List.getLast?_eq_some_getLast hne, Option.some.injEq] at hend
    rw [hend, hblank]
    exact Bool.false_ne_true
  rw [stripRight, String.toList_append, dropTrailing_append (by simp [isBlank_newline]), hkept,
    String.ofList_toList]

end Text

namespace Fault

variable {file : String} {frames : List Frame}

/-! ## The stretch that is kept -/

/-- Whether a list of frames begins and ends in a file, if it is not empty. -/
structure EndsWithin (file : String) (frames : List Frame) : Prop where
  first : ∀ f ∈ frames.head?, f.file = file
  last : ∀ f ∈ frames.getLast?, f.file = file

/-- What is kept of a list of frames: a stretch of it that has all frames in a file, and neither
begins nor ends with another one. -/
structure Trims (file : String) (frames kept : List Frame) : Prop where
  stretch : kept <:+: frames
  all : kept.filter (·.file == file) = frames.filter (·.file == file)
  ends : EndsWithin file kept
  none : (∀ f ∈ frames, f.file ≠ file) → kept = []

/-- Whether a frame is in another file. -/
def Frame.elsewhere (file : String) (f : Frame) : Bool := f.file != file

lemma Frame.elsewhere_iff {f : Frame} : f.elsewhere file = true ↔ f.file ≠ file := bne_iff_ne

lemma framesWithin_eq (file : String) (frames : List Frame) : framesWithin file frames
    = (frames.dropWhile (Frame.elsewhere file)).rdropWhile (Frame.elsewhere file) := rfl

/-- The parts that are cut off have no frame in the file. -/
lemma framesWithin_split (file : String) (frames : List Frame) : ∃ before after,
    frames = before ++ framesWithin file frames ++ after ∧
      (∀ f ∈ before, f.file ≠ file) ∧ ∀ f ∈ after, f.file ≠ file := by
  refine ⟨frames.takeWhile (Frame.elsewhere file),
    (frames.dropWhile (Frame.elsewhere file)).rtakeWhile (Frame.elsewhere file), ?_,
    fun f hf => Frame.elsewhere_iff.mp (List.mem_takeWhile_imp hf),
    fun f hf => Frame.elsewhere_iff.mp (List.mem_rtakeWhile_imp hf)⟩
  rw [framesWithin_eq, List.append_assoc, List.rdropWhile_append_rtakeWhile,
    List.takeWhile_append_dropWhile]

lemma framesWithin_ends (file : String) (frames : List Frame) :
    EndsWithin file (framesWithin file frames) where
  first f hf := by
    have hprefix : framesWithin file frames <+: frames.dropWhile (Frame.elsewhere file) :=
      List.rdropWhile_prefix _ _
    have hfirst := List.head?_dropWhile_not (Frame.elsewhere file) frames
    obtain ⟨after, hsplit⟩ := hprefix
    rw [← hsplit, List.head?_append, Option.mem_def.mp hf] at hfirst
    simpa [Frame.elsewhere] using hfirst
  last f hf := by
    obtain ⟨hne, rfl⟩ := List.mem_getLast?_eq_getLast hf
    have hkept := List.rdropWhile_last_not (Frame.elsewhere file)
      (frames.dropWhile (Frame.elsewhere file)) hne
    rw [Frame.elsewhere_iff, not_not] at hkept
    exact hkept

/-- What is kept is the stretch from the first frame of the file to the last one. -/
lemma trims_framesWithin (file : String) (frames : List Frame) :
    Trims file frames (framesWithin file frames) := by
  obtain ⟨before, after, hsplit, hbefore, hafter⟩ := framesWithin_split file frames
  have hstretch : framesWithin file frames <:+: frames := ⟨before, after, hsplit.symm⟩
  refine ⟨hstretch, ?_, framesWithin_ends file frames, fun houtside => ?_⟩
  · have hnone : ∀ {fs : List Frame}, (∀ f ∈ fs, f.file ≠ file) →
        fs.filter (·.file == file) = [] := by
      intro fs hfs
      rw [List.filter_eq_nil_iff]
      exact fun f hf heq => hfs f hf (beq_iff_eq.mp heq)
    conv_rhs => rw [hsplit]
    rw [List.filter_append, List.filter_append, hnone hbefore, hnone hafter, List.nil_append,
      List.append_nil]
  · rw [← List.head?_eq_none_iff, Option.eq_none_iff_forall_not_mem]
    exact fun f hf => houtside f (hstretch.subset (List.mem_of_mem_head? hf))
      ((framesWithin_ends file frames).first f hf)

/-- Nothing is cut off where both ends are in the file. -/
lemma framesWithin_of_endsWithin (ends : EndsWithin file frames) :
    framesWithin file frames = frames := by
  have hleft : frames.dropWhile (Frame.elsewhere file) = frames := by
    rw [List.dropWhile_eq_self_iff]
    intro hlength
    rw [Frame.elsewhere_iff, not_not]
    exact ends.first _ (List.head?_eq_getElem? ▸ List.getElem?_eq_getElem hlength)
  have hright : frames.rdropWhile (Frame.elsewhere file) = frames := by
    rw [List.rdropWhile_eq_self_iff]
    intro hne
    rw [Frame.elsewhere_iff, not_not]
    exact ends.last _ (List.getLast?_eq_some_getLast hne)
  rw [framesWithin_eq, hleft, hright]

/-! ## Frames in a row -/

/-- The lines of equal frames in a row: the first ones, and how many more there are. -/
def rowLines (sources : SourceLines) (row : List Frame) : List String :=
  (row.take repeatLimit).flatMap (·.lines sources) ++ repetitionLines row.length

/-- The rows that frames come to, after some rows and the beginning of another one. -/
lemma flatMap_splitBy (sources : SourceLines) (rest : List Frame) : ∀ (last : Frame)
    (row : List Frame) (rows : List (List Frame)),
    (List.splitBy.loop Frame.repeats rest last row rows).flatMap (rowLines sources)
      = rows.reverse.flatMap (rowLines sources)
        ++ ((row.reverse ++ [last]).take repeatLimit).flatMap (·.lines sources)
        ++ frameLines sources (some last) (row.length + 1) rest := by
  induction rest with
  | nil =>
    intro last row rows
    simp [List.splitBy.loop, frameLines, rowLines]
  | cons f rest ih =>
    intro last row rows
    rw [List.splitBy.loop, frameLines, Option.any_some]
    cases hrepeats : last.repeats f with
    | true =>
      simp only [if_true]
      rw [ih]
      have hlength : (last :: row).reverse.length = row.length + 1 := List.length_reverse
      -- the frame is shown only as long as the row is short
      split
      case isTrue hshort =>
        have hlength' : ((last :: row).reverse ++ [f]).length = row.length + 1 + 1 := by
          rw [List.length_append, hlength]
          rfl
        rw [List.reverse_cons] at hlength hlength' ⊢
        rw [List.take_of_length_le (hlength'.trans_le hshort),
          List.take_of_length_le (hlength.trans_le hshort.le)]
        simp
      case isFalse hlong =>
        rw [List.take_append_of_le_length ((Nat.le_of_not_lt hlong).trans_eq hlength.symm)]
        simp
    | false =>
      simp only [Bool.false_eq_true, if_false]
      rw [ih]
      simp [rowLines, repeatLimit]

/-- Frames are shown in order, and those of a row from the fourth one on are counted. -/
lemma frameLines_eq (sources : SourceLines) (frames : List Frame) : frameLines sources none 0 frames
    = (frames.splitBy Frame.repeats).flatMap (rowLines sources) := by
  cases frames with
  | nil => rfl
  | cons f rest =>
    rw [List.splitBy, flatMap_splitBy, frameLines]
    simp [repetitionLines, repeatLimit]

/-! ## The errors of a chain -/

/-- The errors that are shown before an error, the first one first, each with the words after it. -/
def Report.earlier : Report → List (Report × String)
  | ⟨_, _, _, _, some cause, _, _⟩ => cause.earlier ++ [(cause, causeWords)]
  | ⟨_, _, _, _, none, some context, false⟩ => context.earlier ++ [(context, contextWords)]
  | ⟨_, _, _, _, none, _, _⟩ => []

/-- The part of a report about one error, with the frames that are kept of it. -/
def Report.part (sources : SourceLines) (r : Report) (frames : List Frame) : String :=
  ownText sources 0 r.headline r.notes frames (memberTexts sources r.members (innerDepth 0))
    (closes (innerDepth 0) r.members)

/-- The text of a report that keeps certain frames of each error. -/
def Report.textKeeping (sources : SourceLines) (keep : Report → List Frame) (r : Report) : String :=
  Text.stripRight (String.join (r.earlier.map fun e => e.1.part sources (keep e.1) ++ e.2)
    ++ r.part sources (keep r))

lemma marked_zero (mark : Char) (text : String) : marked 0 mark text = text := rfl

/-- The text of a report is put together from those of its errors. -/
lemma textAt_zero (sources : SourceLines) (r : Report) : r.textAt sources 0
    = String.join (r.earlier.map fun e => e.1.part sources e.1.frames ++ e.2)
      ++ r.part sources r.frames := by
  fun_induction Report.earlier r with
  | case1 headline notes frames members cause context suppress ih =>
    rw [Report.textAt, ih, List.map_append, String.join_append]
    simp [Report.part, marked_zero, String.append_assoc]
  | case2 headline notes frames members context ih =>
    rw [Report.textAt, ih, List.map_append, String.join_append]
    simp [Report.part, marked_zero, String.append_assoc]
  | case3 headline notes frames members context suppress hlast =>
    rw [Report.textAt]
    · simp [Report.part]
    · exact hlast

lemma earlier_within (r : Report) (file : String) : (r.within file).earlier = r.earlier := by
  fun_cases Report.earlier r <;> simp_all [Report.within, Report.earlier]

/-- Of the last error the frames are cut, of those before it none are. -/
lemma text_within (sources : SourceLines) (r : Report) (file : String) :
    (r.within file).text sources = Text.stripRight
      (String.join (r.earlier.map fun e => e.1.part sources e.1.frames ++ e.2)
        ++ r.part sources (framesWithin file r.frames)) := by
  rw [Report.text, textAt_zero, earlier_within]
  rfl

/-- How an error that is no group is shown with some frames: after a title, unless there is no
frame, stand the frames in their rows, and what the error says of itself. -/
def Report.singlePart (sources : SourceLines) (r : Report) (frames : List Frame) : String :=
  (if frames.isEmpty then "" else "Traceback (most recent call last):" ++ "\n")
    ++ String.join (((frames.splitBy Frame.repeats).flatMap (rowLines sources)
      ++ r.headline.lines ++ r.notes.lines).map (· ++ "\n"))
    ++ r.notes.rest.getD ""

lemma part_of_single (sources : SourceLines) {r : Report} (hsingle : r.members = [])
    (frames : List Frame) : r.part sources frames = r.singlePart sources frames := by
  rw [Report.singlePart, ← frameLines_eq, Report.part, hsingle, memberTexts, String.append_assoc]
  rfl

/-- Reports show the frames of a snippet, and no others around them.

The text of a report is put together from the parts about its errors, each with the frames that are
kept of it. Of the last error these are the frames from the first one in the file to the last one,
and of those before it all frames. So where each of them begins and ends in the file, just this
stretch is kept of all errors. -/
theorem snippet_frames_shown (sources : SourceLines) (r : Report) (file : String) :
    (r.within file).text sources = Text.stripRight
      (String.join (r.earlier.map fun e => e.1.part sources e.1.frames ++ e.2)
        ++ r.part sources (framesWithin file r.frames)) ∧
    Trims file r.frames (framesWithin file r.frames) ∧
    ((∀ e ∈ r.earlier, EndsWithin file e.1.frames) →
      (r.within file).text sources
        = r.textKeeping sources (fun e => framesWithin file e.frames) ∧
      ∀ e ∈ r.earlier, Trims file e.1.frames (framesWithin file e.1.frames)) ∧
    ∀ e : Report, e.members = [] →
      ∀ frames, e.part sources frames = e.singlePart sources frames := by
  refine ⟨text_within sources r file, trims_framesWithin file r.frames,
    fun ends => ⟨?_, fun e _ => trims_framesWithin file e.1.frames⟩,
    fun e hsingle frames => part_of_single sources hsingle frames⟩
  have hearlier : r.earlier.map (fun e => e.1.part sources e.1.frames ++ e.2)
      = r.earlier.map fun e => e.1.part sources (framesWithin file e.1.frames) ++ e.2 := by
    refine List.map_congr_left fun e he => ?_
    rw [framesWithin_of_endsWithin (ends e he)]
  rw [text_within, hearlier]
  rfl

/-- An error that a snippet raised in a callback of the host, after one that it raised itself. -/
def raisedInCallback : Report where
  headline := .plain "ValueError" (some "x")
  frames := [⟨"/host", "work", ⟨1, 0, 1, 0⟩⟩, ⟨"<snippet-1>", "<module>", ⟨6, 4, 6, 20⟩⟩,
    ⟨"/host", "call", ⟨1, 0, 1, 0⟩⟩, ⟨"<snippet-1>", "key", ⟨2, 4, 2, 24⟩⟩]
  cause := some
    { headline := .plain "KeyError" (some "'k'")
      frames := [⟨"<snippet-1>", "<module>", ⟨4, 4, 4, 10⟩⟩] }

/-- The frames of the supervisor are cut off, and the one between those of the snippet stays. -/
theorem snippet_frames_shown_in_callback :
    (∀ e ∈ raisedInCallback.earlier, EndsWithin "<snippet-1>" e.1.frames) ∧
    (raisedInCallback.within "<snippet-1>").text [] = raisedInCallback.textKeeping []
      (fun e => framesWithin "<snippet-1>" e.frames) ∧
    framesWithin "<snippet-1>" raisedInCallback.frames = raisedInCallback.frames.drop 1 := by
  have hends : ∀ e ∈ raisedInCallback.earlier, EndsWithin "<snippet-1>" e.1.frames := by
    intro e he
    obtain rfl := List.mem_singleton.mp he
    exact ⟨by simp, by simp⟩
  obtain ⟨-, -, htrimmed, -⟩ := snippet_frames_shown [] raisedInCallback "<snippet-1>"
  exact ⟨hends, (htrimmed hends).1, by decide⟩

/-- An error that follows from one of which only the frame of the import guard is left. -/
def raisedFromGuarded : Report where
  headline := .plain "ValueError" (some "x")
  frames := [⟨"<snippet-1>", "<module>", ⟨5, 4, 5, 32⟩⟩]
  cause := some
    { headline := .plain "ImportError" (some "import of 'os' is not allowed in the sandbox")
      frames := [⟨"/host", "guarded_import", ⟨1, 0, 1, 0⟩⟩] }

/-- The guard's frame is shown, although none is to be kept of its error. -/
theorem outside_frame_shown :
    (∀ e ∈ raisedFromGuarded.earlier, ∀ f ∈ e.1.frames, f.file ≠ "<snippet-1>") ∧
    (raisedFromGuarded.within "<snippet-1>").text [] =
      "Traceback (most recent call last):\n  File \"/host\", line 1, in guarded_import\n" ++
      "ImportError: import of 'os' is not allowed in the sandbox\n" ++ causeWords ++
      "Traceback (most recent call last):\n  File \"<snippet-1>\", line 5, in <module>\n" ++
      "ValueError: x" ∧
    raisedFromGuarded.textKeeping [] (fun e => framesWithin "<snippet-1>" e.frames) =
      "ImportError: import of 'os' is not allowed in the sandbox\n" ++ causeWords ++
      "Traceback (most recent call last):\n  File \"<snippet-1>\", line 5, in <module>\n" ++
      "ValueError: x" := by
  refine ⟨?_, ?_, ?_⟩
  · intro e he f hf
    obtain rfl := List.mem_singleton.mp he
    obtain rfl := List.mem_singleton.mp hf
    decide
  · exact (congrArg Text.stripRight (by decide +kernel)).trans
      (Text.stripRight_newline _ 'x' (by decide) (by cbv))
  · exact (congrArg Text.stripRight (by decide +kernel)).trans
      (Text.stripRight_newline _ 'x' (by decide) (by cbv))

end Fault

end SnippetRunner
