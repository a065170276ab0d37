import Mathlib.Data.List.Nodup
import Mathlib.Tactic.Lemma
import SnippetRunner.Sandbox.Build

/-!
# The names that a snippet starts with

A new context takes over helpers under any names and then sets its own bindings. `build_names` says
which names that leaves, what is bound to each of them, and that no helper gets the place of a binding
of the context.

The first two sections are about tables and about a heap that takes in a new object. `Admissible` says
in terms of the host's names what `isAdmitted` computes.
-/

namespace SnippetRunner

/-! ## Sequences that grow -/

namespace Blocks

variable {α : Type} {b : Blocks α} {x : α} {i : Nat}

/-- Whether the block that is not full has room, as it always has in a sequence that was pushed
together. -/
def HasRoom (b : Blocks α) : Prop := b.last.size < blockSize

instance (b : Blocks α) : Decidable b.HasRoom :=
  inferInstanceAs (Decidable (b.last.size < blockSize))

lemma push_of_room (h : (b.last.push x).size < blockSize) : b.push x = ⟨b.full, b.last.push x⟩ :=
  if_pos h

lemma push_of_full (h : ¬ (b.last.push x).size < blockSize) :
    b.push x = ⟨b.full.push (b.last.push x), #[]⟩ :=
  if_neg h

lemma HasRoom.push (room : b.HasRoom) : (b.push x).HasRoom := by
  by_cases hsize : (b.last.push x).size < blockSize
  · rw [push_of_room hsize]
    exact hsize
  · rw [push_of_full hsize]
    exact Nat.lt_of_le_of_lt (Nat.zero_le _) room

/-- The end of a sequence is in its last block. -/
lemma HasRoom.end_eq (room : b.HasRoom) :
    b.size / blockSize = b.full.size ∧ b.size % blockSize = b.last.size := by
  unfold HasRoom at room
  simp only [size, blockSize] at room ⊢
  omega

lemma HasRoom.size_push (room : b.HasRoom) : (b.push x).size = b.size + 1 := by
  unfold HasRoom at room
  by_cases hsize : (b.last.push x).size < blockSize
  · rw [push_of_room hsize]
    simp only [size, Array.size_push]
    omega
  · rw [push_of_full hsize]
    simp only [size, blockSize, Array.size_push, List.size_toArray, List.length_nil] at room hsize ⊢
    omega

/-- Past its end a sequence has nothing. -/
lemma get?_eq_none (hi : b.size ≤ i) : b.get? i = none := by
  simp only [size, blockSize] at hi
  by_cases hlast : i / blockSize = b.full.size
  · simp only [get?, hlast, Nat.lt_irrefl, if_false, if_true]
    refine Array.getElem?_eq_none ?_
    simp only [blockSize] at hlast ⊢
    omega
  · have hfull : ¬ i / blockSize < b.full.size := by
      simp only [blockSize]
      omega
    simp only [get?, hfull, hlast, if_false]

/-- A new element is at the end. -/
lemma HasRoom.get?_push_size (room : b.HasRoom) : (b.push x).get? b.size = some x := by
  obtain ⟨hblock, hplace⟩ := room.end_eq
  by_cases hsize : (b.last.push x).size < blockSize
  · rw [push_of_room hsize]
    simp only [get?, hblock, hplace, Nat.lt_irrefl, if_false, if_true, Array.getElem?_push_size]
  · -- the block is full now, and the element is its last one
    rw [push_of_full hsize]
    simp only [get?, hblock, hplace, Array.size_push, Nat.lt_succ_self, if_true,
      Array.getElem?_push_size, Option.bind_some]

/-- The elements that are there stay where they are. -/
lemma get?_push {y : α} (hy : b.get? i = some y) : (b.push x).get? i = some y := by
  by_cases hfull : i / blockSize < b.full.size
  · simp only [get?, hfull, if_true] at hy
    by_cases hsize : (b.last.push x).size < blockSize
    · rw [push_of_room hsize]
      simpa only [get?, hfull, if_true] using hy
    · rw [push_of_full hsize]
      simp only [get?, Array.size_push, Nat.lt_succ_of_lt hfull, if_true, Array.getElem?_push,
        Nat.ne_of_lt hfull, if_false]
      exact hy
  · by_cases hlast : i / blockSize = b.full.size
    · simp only [get?, hlast, Nat.lt_irrefl, if_false, if_true] at hy
      obtain ⟨hplace, -⟩ := Array.getElem?_eq_some_iff.mp hy
      have hkept : (b.last.push x)[i % blockSize]? = some y := by
        rw [Array.getElem?_push, if_neg (Nat.ne_of_lt hplace)]
        exact hy
      by_cases hsize : (b.last.push x).size < blockSize
      · rw [push_of_room hsize]
        simpa only [get?, hlast, Nat.lt_irrefl, if_false, if_true] using hkept
      · rw [push_of_full hsize]
        simp only [get?, hlast, Array.size_push, Nat.lt_succ_self, if_true,
          Array.getElem?_push_size, Option.bind_some]
        exact hkept
    · simp only [get?, hfull, hlast, if_false] at hy
      cases hy

end Blocks

/-! ## Tables of names -/

namespace Evaluation.Table

variable {t more : Table} {id k : String} {v w : Value}

lemma get?_cons : get? ((id, v) :: t) k = if id = k then some v else t.get? k := by
  unfold get?
  by_cases h : id = k
  · simp [h]
  · simp [h]

lemma has_iff : t.has id = true ↔ id ∈ t.map (·.1) := by
  rw [has, List.any_eq_true, List.mem_map]
  simp only [beq_iff_eq]

lemma put_nil : put [] id v = [(id, v)] := rfl

lemma put_cons : put ((k, w) :: t) id v = if k = id then (k, v) :: t else (k, w) :: t.put id v := by
  unfold put
  by_cases h : k = id
  · simp [replace?, h]
  · simp only [replace?, beq_iff_eq, h, if_false]
    cases replace? id v t <;> rfl

lemma get?_put : (t.put id v).get? k = if id = k then some v else t.get? k := by
  induction t with
  | nil => rw [put_nil, get?_cons]
  | cons entry t ih =>
    obtain ⟨name, w⟩ := entry
    rw [put_cons]
    by_cases hname : name = id
    · rw [if_pos hname, get?_cons, get?_cons, hname]
      by_cases hk : id = k <;> simp [hk]
    · rw [if_neg hname, get?_cons, get?_cons, ih]
      by_cases hk : name = k
      · simp [hk, show ¬ id = k from fun h => hname (hk.trans h.symm)]
      · simp [hk]

lemma mem_names_put : k ∈ (t.put id v).map (·.1) ↔ k = id ∨ k ∈ t.map (·.1) := by
  induction t with
  | nil => simp [put_nil]
  | cons entry t ih =>
    obtain ⟨name, w⟩ := entry
    rw [put_cons]
    by_cases hname : name = id
    · simp [hname]
    · rw [if_neg hname, List.map_cons, List.mem_cons, ih, List.map_cons, List.mem_cons]
      exact or_left_comm

lemma nodup_names_put (hnodup : (t.map (·.1)).Nodup) : ((t.put id v).map (·.1)).Nodup := by
  induction t with
  | nil => simp [put_nil]
  | cons entry t ih =>
    obtain ⟨name, w⟩ := entry
    obtain ⟨hnot, hrest⟩ := List.nodup_cons.mp hnodup
    rw [put_cons]
    by_cases hname : name = id
    · rw [if_pos hname]
      exact List.nodup_cons.mpr ⟨hnot, hrest⟩
    · rw [if_neg hname]
      refine List.nodup_cons.mpr ⟨?_, ih hrest⟩
      rw [mem_names_put]
      exact fun h => h.elim hname hnot

lemma mem_names_update :
    k ∈ (t.update more).map (·.1) ↔ k ∈ t.map (·.1) ∨ k ∈ more.map (·.1) := by
  induction more generalizing t with
  | nil => simp [update]
  | cons entry more ih =>
    rw [update, List.foldl_cons, ← update, ih, mem_names_put, List.map_cons, List.mem_cons]
    rw [or_comm (a := k = entry.1), or_assoc]

lemma nodup_names_update (hnodup : (t.map (·.1)).Nodup) :
    ((t.update more).map (·.1)).Nodup := by
  induction more generalizing t with
  | nil => exact hnodup
  | cons entry more ih => exact ih (nodup_names_put hnodup)

/-- Names that are not set keep their values. -/
lemma get?_update_of_not_mem (hnot : k ∉ more.map (·.1)) : (t.update more).get? k = t.get? k := by
  induction more generalizing t with
  | nil => rfl
  | cons entry more ih =>
    rw [List.map_cons, List.mem_cons, not_or] at hnot
    rw [update, List.foldl_cons, ← update, ih hnot.2, get?_put, if_neg (Ne.symm hnot.1)]

/-- A name that is set once has the value that it is set to. -/
lemma get?_update_of_mem (hnodup : (more.map (·.1)).Nodup) (hmem : (k, v) ∈ more) :
    (t.update more).get? k = some v := by
  induction more generalizing t with
  | nil => cases hmem
  | cons entry more ih =>
    obtain ⟨hnot, hrest⟩ := List.nodup_cons.mp hnodup
    rw [update, List.foldl_cons, ← update]
    rcases List.mem_cons.mp hmem with rfl | hmem
    · rw [get?_update_of_not_mem hnot, get?_put, if_pos rfl]
    · exact ih hrest hmem

end Evaluation.Table

namespace Sandbox

open Evaluation

/-! ## Which helpers are taken over -/

/-- What the host knows by name. -/
def hostNames : List String := knownNames.map (·.1) ++ hostOnlyNames

/-- Whether the host knows something by a name that snippets do not know. -/
def Withheld (name : String) : Prop := name ∈ hostNames ∧ name ∉ knownNames.map (·.1)

lemma withheld_iff {name : String} : Withheld name ↔ name ∈ hostOnlyNames := by
  have hdisjoint : ∀ name ∈ hostOnlyNames, name ∉ knownNames.map (·.1) := by decide +kernel
  rw [Withheld, hostNames, List.mem_append]
  constructor
  · rintro ⟨hknown | hhost, hnot⟩
    · exact absurd hknown hnot
    · exact hhost
  · exact fun hhost => ⟨Or.inr hhost, hdisjoint name hhost⟩

/-- Whether a helper is taken over under its name: this is not denied, is none of the context's own,
and neither it nor what follows a `py_` before it is withheld from snippets. -/
structure Admissible (name : String) : Prop where
  allowed : name ∉ deniedNames
  other : name ∉ ownBindings.map (·.1)
  known : ¬ Withheld name
  alias_known : ∀ rest, name = "py_" ++ rest → ¬ Withheld rest

lemma withoutMark_eq_some {name rest : String} :
    withoutMark name = some rest ↔ name = "py_" ++ rest := by
  unfold withoutMark
  by_cases hmark : name.startsWith "py_" = true
  · rw [if_pos hmark, Option.some.injEq]
    obtain ⟨tail, htail⟩ := String.startsWith_string_iff.mp hmark
    have hname : name = "py_" ++ rest ↔ name.toList = ("py_" ++ rest).toList :=
      String.toList_inj.symm
    rw [hname, ← String.toList_inj, String.toList_append, ← htail, String.toList_ofList]
    simp
  · rw [if_neg hmark]
    refine ⟨fun h => (Option.some_ne_none rest h.symm).elim, fun h => absurd ?_ hmark⟩
    rw [String.startsWith_string_iff, h, String.toList_append]
    exact List.prefix_append _ _

lemma admissible_iff {name : String} :
    Admissible name ↔ (isAdmitted name && ! ownBindings.has name) = true := by
  have halias : (withoutMark name).any hostOnlyNames.contains = true
      ↔ ∃ rest, name = "py_" ++ rest ∧ Withheld rest := by
    simp only [Option.any_eq_true, withoutMark_eq_some, withheld_iff, List.contains_iff_mem]
  simp only [isAdmitted, Bool.and_eq_true, Bool.not_eq_true', ← Bool.not_eq_true, Table.has_iff,
    halias, List.contains_iff_mem, ← withheld_iff]
  constructor
  · rintro ⟨allowed, other, known, alias_known⟩
    exact ⟨⟨⟨allowed, known⟩, fun ⟨rest, h, withheld⟩ => alias_known rest h withheld⟩, other⟩
  · rintro ⟨⟨⟨allowed, known⟩, alias_known⟩, other⟩
    exact ⟨allowed, other, known, fun rest h withheld => alias_known ⟨rest, h, withheld⟩⟩

lemma mem_admitted {helpers : Table} {name : String} {v : Value} :
    (name, v) ∈ admitted helpers ↔ (name, v) ∈ helpers ∧ Admissible name := by
  rw [admitted, List.mem_filter, admissible_iff]

/-! ## The names of a new context -/

section Build

variable {helpers : Table} {known : Value} {name : String} {v : Value}

/-- The known names of a context are those of every snippet, with its `print` and its import guard. -/
lemma knownTable_eq (names : List String) : knownTable names
    = knownNames ++ [("print", .own .print), ("__import__", .own (.importer names))] := rfl

/-- The bindings that are set last. -/
def lastBindings (known : Value) : Table :=
  [("__builtins__", known), ("__name__", .text "__main__")]

@[simp] lemma names_lastBindings :
    (lastBindings known).map (·.1) = ["__builtins__", "__name__"] := rfl

lemma startNames_eq : startNames helpers known
    = ((Table.update [] (admitted helpers)).update ownBindings).update (lastBindings known) := rfl

lemma nodup_startNames : ((startNames helpers known).map (·.1)).Nodup := by
  rw [startNames_eq]
  refine Table.nodup_names_update (Table.nodup_names_update (Table.nodup_names_update ?_))
  exact List.nodup_nil

lemma mem_startNames : name ∈ (startNames helpers known).map (·.1) ↔
    name ∈ ownBindings.map (·.1) ++ ["__builtins__", "__name__"] ∨
      name ∈ helpers.map (·.1) ∧ Admissible name := by
  have hadmitted : name ∈ (admitted helpers).map (·.1) ↔
      name ∈ helpers.map (·.1) ∧ Admissible name := by
    simp only [List.mem_map, Prod.exists, mem_admitted]
    constructor
    · rintro ⟨name, v, ⟨hmem, hadmissible⟩, rfl⟩
      exact ⟨⟨name, v, hmem, rfl⟩, hadmissible⟩
    · rintro ⟨⟨name, v, hmem, rfl⟩, hadmissible⟩
      exact ⟨name, v, ⟨hmem, hadmissible⟩, rfl⟩
  rw [startNames_eq, Table.mem_names_update, Table.mem_names_update, Table.mem_names_update,
    hadmitted, names_lastBindings, List.map_nil, List.mem_append]
  simp only [List.not_mem_nil, false_or]
  rw [or_comm (a := name ∈ helpers.map (·.1) ∧ Admissible name), or_assoc, or_assoc]
  exact or_congr_right or_comm

/-- What is set last cannot be replaced. -/
lemma get?_startNames_last (hmem : (name, v) ∈ lastBindings known) :
    (startNames helpers known).get? name = some v :=
  Table.get?_update_of_mem (by simp) hmem

/-- A context has its own bindings, whatever the helpers are. -/
lemma get?_startNames_own (hmem : (name, v) ∈ ownBindings) :
    (startNames helpers known).get? name = some v := by
  have hnodup : (ownBindings.map (·.1)).Nodup := by decide
  have hlast : ∀ own ∈ ownBindings, own.1 ∉ ["__builtins__", "__name__"] := by decide
  rw [startNames_eq, Table.get?_update_of_not_mem (hlast _ hmem)]
  exact Table.get?_update_of_mem hnodup hmem

/-- A helper that is taken over keeps its value, unless it has the name of the known names. -/
lemma get?_startNames_helper (hdistinct : (helpers.map (·.1)).Nodup) (hmem : (name, v) ∈ helpers)
    (hadmissible : Admissible name) (hother : name ≠ "__builtins__") :
    (startNames helpers known).get? name = some v := by
  have hname : name ≠ "__name__" := by
    rintro rfl
    exact hadmissible.known (withheld_iff.mpr (by decide))
  have hlast : name ∉ (lastBindings known).map (·.1) := by
    simp [hother, hname]
  have hnodup : ((admitted helpers).map (·.1)).Nodup :=
    hdistinct.sublist (List.filter_sublist.map _)
  rw [startNames_eq, Table.get?_update_of_not_mem hlast,
    Table.get?_update_of_not_mem hadmissible.other]
  exact Table.get?_update_of_mem hnodup (mem_admitted.mpr ⟨hmem, hadmissible⟩)

lemma mem_capabilitiesOf {names : Table} : name ∈ capabilitiesOf names ↔
    name ∈ names.map (·.1) ∧ name ≠ "__builtins__" ∧ name ≠ "__name__" := by
  rw [capabilitiesOf, List.mem_mergeSort, List.mem_filter]
  simp only [Bool.and_eq_true, bne_iff_ne]

lemma nodup_capabilitiesOf {names : Table} (hnodup : (names.map (·.1)).Nodup) :
    (capabilitiesOf names).Nodup :=
  (List.mergeSort_perm _ _).nodup_iff.mpr (hnodup.filter _)

end Build

/-- A new context has its own names, and what it takes over of the helpers is decided by their names
alone.

The names are the context's own bindings, the known names, the name of the program, and the admissible
names of helpers, each once. The own bindings and the known names are the context's, whatever the
helpers are; the known names are those of every snippet with the `print` and the import guard of the
context; and an admissible helper under any other name keeps its value. What is told as capabilities
are all names but those of the known names and of the program.

The two tables are new objects, the buffer and the agenda are empty, and what the heap had is left as
it was. -/
theorem build_names (s : Settings) (helpers : Table) (h : Heap) (room : h.objects.HasRoom)
    (distinct : (helpers.map (·.1)).Nodup) :
    let context := (s.build helpers h).1
    let made := (s.build helpers h).2
    let names := made.names context.names
    ∃ known,
      (names.map (·.1)).Nodup ∧
      (∀ name, name ∈ names.map (·.1) ↔
        name ∈ ownBindings.map (·.1) ++ ["__builtins__", "__name__"] ∨
          name ∈ helpers.map (·.1) ∧ Admissible name) ∧
      (∀ own ∈ ownBindings, names.get? own.1 = some own.2) ∧
      names.get? "__builtins__" = some (.ref known) ∧
      names.get? "__name__" = some (.text "__main__") ∧
      (∀ name v, (name, v) ∈ helpers → Admissible name → name ≠ "__builtins__" →
        names.get? name = some v) ∧
      made.names known
        = knownNames ++ [("print", .own .print), ("__import__", .own (.importer s.allowed))] ∧
      (∀ name, name ∈ context.capabilities ↔
        name ∈ names.map (·.1) ∧ name ≠ "__builtins__" ∧ name ≠ "__name__") ∧
      context.capabilities.Nodup ∧
      h.get? known = none ∧ h.get? context.names = none ∧ known ≠ context.names ∧
      context.surroundings = { buffer := { cap := s.cap }, agenda := .empty 0.0 } ∧
      ∀ address o, h.get? address = some o → made.get? address = some o := by
  intro context made names
  have hsize := room.size_push (x := .names (knownTable s.allowed))
  have hknown : made.get? h.objects.size = some (.names (knownTable s.allowed)) :=
    Blocks.get?_push room.get?_push_size
  have hnames : made.get? context.names
      = some (.names (startNames helpers (.ref h.objects.size))) :=
    room.push.get?_push_size
  have hplace : context.names = h.objects.size + 1 := hsize
  have htable : names = startNames helpers (.ref h.objects.size) := by
    simp only [names, Heap.names, hnames]
  have hcapabilities : context.capabilities = capabilitiesOf names := by
    rw [htable]
    rfl
  rw [hcapabilities, htable]
  refine ⟨h.objects.size, nodup_startNames, fun name => mem_startNames,
    fun own hown => get?_startNames_own hown, get?_startNames_last (by simp [lastBindings]),
    get?_startNames_last (by simp [lastBindings]),
    fun name v hmem => get?_startNames_helper distinct hmem,
    ?_, fun name => mem_capabilitiesOf, nodup_capabilitiesOf nodup_startNames,
    Blocks.get?_eq_none (Nat.le_refl _), ?_, ?_, rfl, ?_⟩
  · rw [Heap.names, hknown, knownTable_eq]
  · rw [hplace]
    exact Blocks.get?_eq_none (Nat.le_succ _)
  · rw [hplace]
    exact Nat.ne_of_lt (Nat.lt_succ_self _)
  · exact fun address o ho => Blocks.get?_push (Blocks.get?_push ho)

/-- Four helpers: one takes the place of the output, one that of the known names, one stands for a
builtin that snippets do not know, and one for a builtin that they know. -/
def tryingHelpers : Table :=
  [("print", .int 1), ("__builtins__", .int 2), ("py_open", .int 3), ("py_map", .int 4)]

/-- The helper for a known builtin is bound, the one for an unknown one is not, and the other two leave
the output and the known names of the context in their places. -/
theorem build_names_trying :
    (({} : Heap).objects.HasRoom ∧ (tryingHelpers.map (·.1)).Nodup) ∧
    let made := ({} : Settings).build tryingHelpers {}
    let names := made.2.names made.1.names
    names.get? "py_map" = some (.int 4) ∧ "py_open" ∉ names.map (·.1) ∧
      names.get? "print" = some (.own .print) ∧
      ∃ known, names.get? "__builtins__" = some (.ref known) ∧ made.2.names known
        = knownNames
          ++ [("print", .own .print), ("__import__", .own (.importer defaultModules))] := by
  have room : ({} : Heap).objects.HasRoom := by decide
  have distinct : (tryingHelpers.map (·.1)).Nodup := by decide
  have hmap : Admissible "py_map" := admissible_iff.mpr (by with_unfolding_all decide)
  have hopen : ¬ Admissible "py_open" := fun h => by
    have := admissible_iff.mp h
    revert this
    with_unfolding_all decide
  obtain ⟨known, -, hkeys, hown, hknown, -, hkept, htable, -⟩ :=
    build_names {} tryingHelpers {} room distinct
  refine ⟨⟨room, distinct⟩, hkept "py_map" (.int 4) (by simp [tryingHelpers]) hmap (by decide), ?_,
    hown ("print", .own .print) (by simp [ownBindings, outputBindings]), known, hknown, htable⟩
  rw [hkeys]
  rintro (hreserved | ⟨-, hadmissible⟩)
  · revert hreserved
    decide
  · exact hopen hadmissible

end Sandbox

end SnippetRunner
