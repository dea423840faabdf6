import Mathlib.Data.Set.Insert
import Mathlib.Logic.Relation

/-! # Labelled groups that grow by one member at a time

Members carry labels, and a symmetric relation says which members belong
together. The labels are right when two members share one exactly if a chain of
related members connects them. A new member keeps them right when all the members
it is related to share its label, or when it is related to none and its label is
new; both conditions are needed.
-/

namespace SentinelEdge.Foundation

variable {α κ : Type} {r : α → α → Prop}

/-- A chain of related members leads from `a` to `b`. -/
def Connected (r : α → α → Prop) (members : Set α) (a b : α) : Prop :=
  Relation.ReflTransGen (fun u v => v ∈ members ∧ r u v) a b

def members (entries : Set (α × κ)) : Set α := { a | ∃ label, (a, label) ∈ entries }

/-- Labels follow the chains. -/
def Grouped (r : α → α → Prop) (entries : Set (α × κ)) : Prop :=
  ∀ a la b lb, (a, la) ∈ entries → (b, lb) ∈ entries → (la = lb ↔ Connected r (members entries) a b)

theorem Connected.mono {few many : Set α} (sub : few ⊆ many) {a b : α} (connected : Connected r few a b) :
    Connected r many a b :=
  connected.lift id (fun _ _ edge => ⟨sub edge.1, edge.2⟩)

/-- Related members share their label. -/
theorem Grouped.related {entries : Set (α × κ)} (grouped : Grouped r entries) {a b : α} {la lb : κ}
    (memberA : (a, la) ∈ entries) (memberB : (b, lb) ∈ entries) (related : r a b) : la = lb :=
  (grouped a la b lb memberA memberB).mpr (Relation.ReflTransGen.single ⟨⟨lb, memberB⟩, related⟩)

section Insert

variable {entries : Set (α × κ)} {x : α} {label : κ}

/-- The label a new member may get. -/
structure Joins (r : α → α → Prop) (entries : Set (α × κ)) (x : α) (label : κ) : Prop where
  shared : ∀ y other, (y, other) ∈ entries → r x y → other = label
  found : (∃ y, (y, label) ∈ entries ∧ r x y) ∨ ∀ y, (y, label) ∉ entries

theorem subset_members_insert : members entries ⊆ members (insert (x, label) entries) :=
  fun _ ⟨other, member⟩ => ⟨other, Set.mem_insert_of_mem _ member⟩

/-- Along a chain through the new member the label stays the same. -/
theorem Joins.chain (symmetric : ∀ {u v}, r u v → r v u) (grouped : Grouped r entries) (fresh : x ∉ members entries)
    (joins : Joins r entries x label) {a b : α} {la lb : κ} (memberA : (a, la) ∈ insert (x, label) entries)
    (connected : Connected r (members (insert (x, label) entries)) a b)
    (memberB : (b, lb) ∈ insert (x, label) entries) : la = lb := by
  have unique : ∀ {a la lb}, (a, la) ∈ insert (x, label) entries → (a, lb) ∈ insert (x, label) entries → la = lb := by
    rintro a la lb (newA | oldA) (newB | oldB)
    · rw [(Prod.mk.inj newA).2, (Prod.mk.inj newB).2]
    · exact absurd ⟨lb, (Prod.mk.inj newA).1 ▸ oldB⟩ fresh
    · exact absurd ⟨la, (Prod.mk.inj newB).1 ▸ oldA⟩ fresh
    · exact (grouped a la a lb oldA oldB).mpr Relation.ReflTransGen.refl
  have edge : ∀ {u v lu lv}, (u, lu) ∈ insert (x, label) entries → (v, lv) ∈ insert (x, label) entries → r u v →
      lu = lv := by
    rintro u v lu lv (newU | oldU) (newV | oldV) related
    · rw [(Prod.mk.inj newU).2, (Prod.mk.inj newV).2]
    · obtain ⟨rfl, rfl⟩ := Prod.mk.inj newU
      exact (joins.shared v lv oldV related).symm
    · obtain ⟨rfl, rfl⟩ := Prod.mk.inj newV
      exact joins.shared u lu oldU (symmetric related)
    · exact grouped.related oldU oldV related
  induction connected generalizing lb with
  | refl => exact unique memberA memberB
  | tail before last ih =>
      rename_i u v
      obtain ⟨lu, memberU⟩ : ∃ lu, (u, lu) ∈ insert (x, label) entries := by
        cases before with
        | refl => exact ⟨la, memberA⟩
        | tail _ previous => exact previous.1
      exact (ih memberU).trans (edge memberU memberB last.2)

theorem Grouped.insert (symmetric : ∀ {u v}, r u v → r v u) (grouped : Grouped r entries) (fresh : x ∉ members entries)
    (joins : Joins r entries x label) : Grouped r (insert (x, label) entries) := by
  have here : x ∈ members (Insert.insert (x, label) entries) := ⟨label, Set.mem_insert _ _⟩
  intro a la b lb memberA memberB
  refine ⟨?_, fun connected => joins.chain symmetric grouped fresh memberA connected memberB⟩
  rintro rfl
  rcases memberA with same | oldA <;> rcases memberB with same' | oldB
  · obtain ⟨rfl, rfl⟩ := Prod.mk.inj same
    obtain ⟨rfl, -⟩ := Prod.mk.inj same'
    exact Relation.ReflTransGen.refl
  · obtain ⟨rfl, rfl⟩ := Prod.mk.inj same
    rcases joins.found with ⟨y, memberY, related⟩ | unused
    · have onward := (grouped y la b la memberY oldB).mp rfl
      exact Relation.ReflTransGen.head ⟨subset_members_insert ⟨la, memberY⟩, related⟩
        (onward.mono subset_members_insert)
    · exact absurd oldB (unused b)
  · obtain ⟨rfl, rfl⟩ := Prod.mk.inj same'
    rcases joins.found with ⟨y, memberY, related⟩ | unused
    · have onward := (grouped a la y la oldA memberY).mp rfl
      exact Relation.ReflTransGen.tail (onward.mono subset_members_insert) ⟨here, symmetric related⟩
    · exact absurd oldA (unused a)
  · exact ((grouped a la b la oldA oldB).mp rfl).mono subset_members_insert

/-- A label that keeps the groups right is one the new member may get. -/
theorem Grouped.joins (fresh : x ∉ members entries) (grouped : Grouped r (Insert.insert (x, label) entries)) :
    Joins r entries x label := by
  have newcomer : (x, label) ∈ Insert.insert (x, label) entries := Set.mem_insert _ _
  have shared : ∀ y other, (y, other) ∈ entries → r x y → other = label := fun y other member related =>
    (grouped.related newcomer (Set.mem_insert_of_mem _ member) related).symm
  refine ⟨shared, ?_⟩
  by_contra neither
  obtain ⟨unrelated, used⟩ := not_or.mp neither
  obtain ⟨y, taken⟩ := not_forall.mp used
  have member : (y, label) ∈ entries := not_not.mp taken
  -- no chain leaves a member that is related to none of the others
  have stays : ∀ b, Connected r (members (Insert.insert (x, label) entries)) x b → b = x := by
    intro b connected
    induction connected with
    | refl => rfl
    | tail before last ih =>
        obtain ⟨⟨other, here⟩, related⟩ := last
        rw [ih] at related
        rcases here with new | old
        · exact (Prod.mk.inj new).1
        · obtain rfl := shared _ other old related
          exact absurd ⟨_, old, related⟩ unrelated
  have chain := (grouped x label y label newcomer (Set.mem_insert_of_mem _ member)).mp rfl
  exact fresh ⟨label, stays y chain ▸ member⟩

end Insert

end SentinelEdge.Foundation
