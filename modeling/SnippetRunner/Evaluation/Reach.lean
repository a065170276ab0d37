import SnippetRunner.Evaluation.Machine

/-!
# What a machine can still reach

Objects that can be reached from what is being done, from the work that was put off, and from what
the surroundings hold. A generator that waits inside a statement with something to do at its end,
and that cannot be reached any more, is ended at once.
-/

namespace SnippetRunner.Evaluation

mutual

/-- The objects that a value refers to. -/
def Value.refs : Value → List Nat
  | .ref address => [address]
  | .tuple items => refsOfAll items
  | .slice lower upper step => lower.refs ++ upper.refs ++ step.refs
  | .nan mark => [mark]
  | .method self _ => self.refs
  | .bound self function => self.refs ++ function.refs
  | _ => []

/-- The objects that values in a row refer to. -/
def refsOfAll : List Value → List Nat
  | [] => []
  | v :: rest => v.refs ++ refsOfAll rest

end

/-- The objects that named values refer to. -/
def Table.refs (t : Table) : List Nat := t.flatMap fun (_, v) => v.refs

/-- The objects that a block refers to. -/
def Activation.refs (a : Activation) : List Nat := a.globals :: a.known :: a.scope.toList

/-- The objects that a visitor refers to. -/
def Visitor.refs : Visitor → List Nat
  | .find v | .best _ v => v.refs
  | .truth _ | .sum | .gather => []

/-- The objects that an operation refers to. -/
def Operation.refs : Operation → List Nat
  | .visit visitor => visitor.refs
  | .catches error | .throwInto error => [error]
  | .exit _ error | .splitGroup error => error.toList
  | .joinGroup error raised => error :: raised
  | _ => []

/-- The objects that an early end refers to. -/
def Leave.refs : Leave → List Nat
  | .returned v => v.refs
  | _ => []

/-- The objects that an answer refers to. -/
def Answer.refs : Answer → List Nat
  | .value v => v.refs
  | .raised error => [error]
  | .effect _ => []

/-- The objects that what is being done refers to. -/
def Control.refs : Control → List Nat
  | .give v | .store _ v | .fit _ v => v.refs
  | .perform op args answers _ => op.refs ++ refsOfAll args ++ answers.flatMap Answer.refs
  | .raise error => [error]
  | .leave how => how.refs
  | .eval _ | .exec _ | .done => []

/-- The objects that the end of a block refers to. -/
def Completion.refs : Completion → List Nat
  | .normal => []
  | .raised error => [error]
  | .left how => how.refs

/-- The objects that the handling of a group refers to. -/
def GroupHandling.refs (g : GroupHandling) : List Nat :=
  g.error :: g.left.toList ++ g.raised ++ g.before.toList

/-- The objects that work refers to. -/
def Pending.refs : Pending → List Nat
  | .operands op done _ _ => op.refs ++ refsOfAll done
  | .answering op args answers _ => op.refs ++ refsOfAll args ++ answers.flatMap Answer.refs
  | .collecting iterator items => iterator.refs ++ refsOfAll items
  | .walking visitor iterator state => visitor.refs ++ iterator.refs ++ state.refs
  | .visited visitor iterator => visitor.refs ++ iterator.refs
  | .augmentLoaded store base _ _ _ _ => store.refs ++ refsOfAll base
  | .storeBack _ base _ => refsOfAll base
  | .booleanKnown _ v _ _ => v.refs
  | .compareWith _ left _ _ | .compareMore left _ _ => left.refs
  | .pieces done _ _ => refsOfAll done
  | .pieceFormat _ v _ => v.refs
  | .delegating iterator _ | .delegated iterator _ => iterator.refs
  | .raising error _ => [error]
  | .loopItem iterator _ _ _ _ | .loopOver iterator _ _ _ _ => iterator.refs
  | .asyncItem iterator _ _ _ _ | .asyncOver iterator _ _ _ _ => iterator.refs
  | .asyncGather _ generator items _ => generator.refs ++ refsOfAll items
  | .caseTried subject _ _ _ _ | .guarded subject _ _ | .equalTo subject _
  | .alternativeTried subject _ | .nameTried subject _ | .mappingKnown subject _ _ _ => subject.refs
  | .partTried bound rest => refsOfAll bound ++ rest.flatMap fun (_, v) => v.refs
  | .matching error _ _ | .matched error _ _ => [error]
  | .groupTried group _ | .groupSplit group _ => group.refs
  | .groupHandled group _ part => part :: group.refs
  | .groupJoined before => before.toList
  | .importMember module _ _ _ => module.refs
  | .managed _ manager _ _ _ _ | .withBody _ manager _ => manager.refs
  | .exited completion before _ | .resumeAfter completion before =>
    completion.refs ++ before.toList
  | .decorate decorators _ => decorators.flatMap fun (v, _) => v.refs
  | .storeEach targets => targets.flatMap fun (_, v) => v.refs
  | .handled _ before => before.toList
  | .caller activation handling => activation.refs ++ handling.toList
  | .openedClass _ _ decorators _ => decorators.flatMap fun (v, _) => v.refs
  | .classBody _ bases options cell scope decorators _ activation handling =>
    refsOfAll bases ++ options.refs ++ [cell, scope] ++ decorators.flatMap (fun (v, _) => v.refs)
      ++ activation.refs ++ handling.toList
  | .resumed generator activation handling =>
    generator :: activation.refs ++ handling.toList
  | .interrupted control => control.refs
  | _ => []

/-- The objects that an iterator refers to. -/
def Iterator.refs : Iterator → List Nat
  | .items _ rest => refsOfAll rest
  | .listItems list _ | .listBack list _ => [list]
  | .rows _ mapping _ _ _ _ => [mapping]
  | .slots set _ _ => [set]
  | .indexed owner _ _ => owner.refs
  | .range _ _ _ => []
  | .map function sources => function.refs ++ refsOfAll sources
  | .filter function source => function.refs ++ source.refs
  | .zip sources _ => refsOfAll sources
  | .enumerate source _ => source.refs
  | .untilSentinel function sentinel => function.refs ++ sentinel.refs
  | .asyncStep _ generator sent error _ _ _ => generator :: sent.refs ++ error.toList
  | .waiting coroutine => [coroutine]

/-- The objects that a generator refers to. -/
def Progress.refs : Progress → List Nat
  | .waiting activation work _ _ handling =>
    activation.refs ++ work.flatMap Pending.refs ++ handling.toList
  | .running | .finished => []

/-- The objects that an object refers to. -/
def Object.refs : Object → List Nat
  | .list items => refsOfAll items.toList
  | .mapping entries => entries.entries.flatMap fun e => e.key.refs ++ e.value.refs
  | .set _ keys => refsOfAll keys.toList
  | .view _ address => [address]
  | .members owner _ => [owner]
  | .names table => table.refs
  | .module _ table => [table]
  | .scope s => s.table.refs ++ s.parent.toList
  | .function f =>
    f.globals :: f.known :: f.closure.toList ++ f.defaults.refs ++ f.attributes.refs
  | .class_ c => refsOfAll c.bases ++ c.attributes.refs ++ c.metaclass.refs
  | .instance_ kind attributes content => kind :: attributes.refs ++ content.refs
  | .plain | .trace _ | .buffer _ => []
  | .code owner | .slot owner _ => [owner]
  | .cell home _ => [home]
  | .error e =>
    e.kind.refs ++ refsOfAll e.args ++ e.attributes.refs ++ e.details.refs ++ e.cause.toList
      ++ e.context.toList ++ e.scopes
  | .iterator it => it.refs
  | .generator _ _ progress => progress.refs
  | .wrapped _ v => v.refs
  | .property getter setter deleter => getter.refs ++ setter.refs ++ deleter.refs
  | .super start self => start.refs ++ self.refs
  | .union kinds => refsOfAll kinds
  | .generic origin args => origin.refs ++ refsOfAll args

namespace Heap

/-- Marks objects that are not marked yet; gives them and all marks. -/
def markNew (marks : Array Bool) (addresses : List Nat) : List Nat × Array Bool :=
  addresses.foldl (fun (fresh, marks) address =>
    if marks[address]?.getD true then (fresh, marks)
    else (address :: fresh, marks.setIfInBounds address true)) ([], marks)

/-- Marks all that can be reached from objects that were just marked. Every round marks new ones,
so `fuel` bounds the rounds by the number of objects. -/
def markFrom (h : Heap) : Nat → List Nat → Array Bool → Array Bool
  | 0, _, marks => marks
  | _ + 1, [], marks => marks
  | fuel + 1, fresh, marks =>
    let refs := fresh.flatMap fun address => ((h.get? address).map Object.refs).getD []
    let (fresh, marks) := markNew marks refs
    h.markFrom fuel fresh marks

/-- Whether each object can be reached from some of them. -/
def reached (h : Heap) (roots : List Nat) : Array Bool :=
  let (fresh, marks) := markNew (Array.replicate h.objects.size false) roots
  h.markFrom h.objects.size fresh marks

/-- Whether a generator waits. -/
def waits (h : Heap) (generator : Nat) : Bool :=
  match h.get? generator with
  | some (.generator _ _ (.waiting _ _ _ _ _)) => true
  | _ => false

/-- The objects that the names of a scope and those around it refer to; `fuel` bounds how many
scopes there are. -/
def namedRefs (h : Heap) : Nat → Option Nat → List Nat
  | 0, _ => []
  | _ + 1, none => []
  | fuel + 1, some address =>
    match h.get? address with
    | some (.scope s) => s.table.refs ++ h.namedRefs fuel s.parent
    | _ => []

end Heap

namespace Machine

/-- The objects that a machine refers to itself. -/
def roots (m : Machine) : List Nat :=
  m.control.refs ++ m.work.flatMap Pending.refs ++ m.here.refs ++ m.handling.toList
    ++ m.heap.modules.map (·.2) ++ refsOfAll m.heap.held

/-- Objects near the machine: its roots, and what its names refer to. -/
def nearby (m : Machine) : List Nat :=
  m.roots ++ m.heap.namedRefs 10 m.here.scope ++ (m.heap.names m.here.globals).refs

/-- Ends a generator that cannot be reached any more, if there is one that still has something to
do. What was being done goes on afterwards. -/
def releaseStep (m : Machine) : Machine :=
  match m.heap.unfinished with
  | [] => m
  | unfinished =>
    let near := m.nearby
    let far := unfinished.filter fun g => m.heap.waits g && ! near.contains g
    let m := { m with effort := m.effort + near.length / 16 }
    if far.isEmpty then m
    else
      let marks := m.heap.reached m.roots
      let m := { m with effort := m.effort + m.heap.objects.size / 4 }
      match far.find? fun g => ! marks[g]?.getD true with
      | none => m
      | some generator =>
        let heap := { m.heap with unfinished := unfinished.filter (· != generator) }
        ({ m with heap }.push (.interrupted m.control)).goOn
          (.perform .discardGenerator [.ref generator] [] none)

end Machine

end SnippetRunner.Evaluation
