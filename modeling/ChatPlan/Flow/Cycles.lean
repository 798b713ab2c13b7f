import ChatPlan.Flow.Graph
import ChatPlan.Options
import ChatPlan.Text.Basic

/-
Cycles without a guard. A depth-first search keeps a stack of nodes, each with the arcs that it
still has to follow; an arc back to a node on the stack closes a cycle. Such an arc is exempt if it
carries a guard, or leads from a node to itself under a safe label.
-/
namespace ChatPlan.Flow

/-- A node on the stack and the arcs that are left. -/
structure Frame where
  id : String
  left : List Arc

/-- A cycle: its nodes from the first to the last, and the arc that closes it. -/
structure Cycle where
  path : List String
  arc : Arc

/-- The arc may close a cycle. -/
def isExempt (o : Options) (e : Edge) : Bool :=
  e.hasGuard || (e.source == e.target && o.isSafeLoop e.label)

/-- The node is on the stack. -/
def onStack (stack : List Frame) (id : String) : Bool := stack.any (·.id == id)

/-- The stack from this node to its top, and the node again. -/
def cyclePath (stack : List Frame) (id : String) : List String :=
  id :: ((stack.takeWhile (·.id != id)).map (·.id)).reverse ++ [id]

/-- The nodes that were neither left nor are on the stack. -/
def fresh (f : Flow) (done : List String) (stack : List Frame) : Nat :=
  f.nodes.countP fun n => !(done.contains n.id || onStack stack n.id)

/-- The arcs that are left on the stack, and its height. -/
def pending (stack : List Frame) : Nat := total (fun fr => fr.left.length + 1) stack

theorem countP_lt {α : Type} {p q : α → Bool} {l : List α} (h : ∀ a ∈ l, q a → p a) {a : α}
    (ha : a ∈ l) (hp : p a = true) (hq : q a = false) : l.countP q < l.countP p := by
  induction l with
  | nil => cases ha
  | cons b l ih =>
    have hl : ∀ a ∈ l, q a → p a := fun a m => h a (List.mem_cons_of_mem b m)
    have mono : l.countP q ≤ l.countP p := List.countP_mono_left hl
    rcases List.mem_cons.1 ha with rfl | m
    · rw [List.countP_cons_of_pos hp, List.countP_cons_of_neg (by simp [hq])]
      omega
    · have := ih hl m
      have hb := h b (List.mem_cons_self ..)
      simp only [List.countP_cons]
      cases hqb : q b <;> cases hpb : p b <;> grind

theorem fresh_pop (f : Flow) (done : List String) (fr : Frame) (rest : List Frame) :
    f.fresh (fr.id :: done) rest = f.fresh done (fr :: rest) := by
  unfold fresh
  congr 1
  funext n
  simp only [onStack, List.contains_cons, List.any_cons, BEq.comm (a := n.id) (b := fr.id)]
  cases fr.id == n.id <;> cases done.contains n.id <;> rfl

theorem fresh_push {f : Flow} {done : List String} {stack : List Frame} {n : Node}
    (h : f.node? n.id = some n) (hs : onStack stack n.id = false)
    (hd : done.contains n.id = false) (arcs : List Arc) :
    f.fresh done (⟨n.id, arcs⟩ :: stack) < f.fresh done stack := by
  apply countP_lt (a := n) _ (List.mem_of_find?_eq_some h)
  · simpa [hs] using hd
  · simp [onStack]
  · intro m _
    simp only [onStack, List.any_cons]
    cases n.id == m.id <;> simp

theorem id_of_node? {f : Flow} {id : String} {n : Node} (h : f.node? id = some n) : n.id = id := by
  have := List.find?_some h
  simpa using this

/-- The cycles that a search finds from this stack on, and the nodes that it leaves. -/
def search (f : Flow) (o : Options) (done : List String) :
    List Frame → List Cycle × List String
  | [] => ([], done)
  | ⟨id, []⟩ :: rest => f.search o (id :: done) rest
  | ⟨id, a :: left⟩ :: rest =>
    match _h : f.node? a.edge.target with
    | none => f.search o done (⟨id, left⟩ :: rest)
    | some target =>
      if onStack (⟨id, left⟩ :: rest) target.id then
        let found := f.search o done (⟨id, left⟩ :: rest)
        if isExempt o a.edge then found
        else (⟨cyclePath (⟨id, left⟩ :: rest) target.id, a⟩ :: found.1, found.2)
      else if done.contains target.id then f.search o done (⟨id, left⟩ :: rest)
      else f.search o done (⟨target.id, f.outgoing target.id⟩ :: ⟨id, left⟩ :: rest)
termination_by stack => (f.fresh done stack, pending stack)
decreasing_by
  · rw [← fresh_pop f done ⟨id, []⟩ rest]
    exact Prod.Lex.right _ (by simp [pending])
  · exact Prod.Lex.right _ (by simp [pending])
  · exact Prod.Lex.right _ (by simp [pending])
  · exact Prod.Lex.right _ (by simp [pending])
  · rename_i hs hd
    apply Prod.Lex.left
    have := id_of_node? _h
    exact fresh_push (this ▸ _h) (by simpa using hs) (by simpa using hd) _

/-- The cycles that searches find from these nodes on. -/
def cyclesFrom (f : Flow) (o : Options) (done : List String) : List Node → List Cycle
  | [] => []
  | n :: ns =>
    if done.contains n.id then f.cyclesFrom o done ns
    else
      let found := f.search o done [⟨n.id, f.outgoing n.id⟩]
      found.1 ++ f.cyclesFrom o found.2 ns

/-- The cycles that close without a guard; every arc closes at most one. -/
def cycles (f : Flow) (o : Options) : List Cycle := f.cyclesFrom o [] f.nodes

end ChatPlan.Flow
