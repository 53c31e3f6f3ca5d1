import BluezSil.AddressRanges
import BluezSil.ByteAccess
import BluezSil.SilApi
import BluezSil.TransitionRun

/-!
# Unicast addresses of new mesh nodes

The provisioner hands out addresses from a 16-bit counter. The list of a client puts the
counter after its greatest address, so it may fall back on addresses handed out to a node
that is not in the list yet.
-/

namespace BluezSil.Mesh

open AddressRanges ByteAccess TransitionRun

structure Provisioner where
  mUnicastAddresses : List UInt16 := []
  mUnicastAddressAvailable : UInt16 := 0x00aa
  deriving DecidableEq, Repr

def unassignedAddress : ℕ := 0x0000
def virtualAddressLow : ℕ := 0x8000

def IsUnicast (x : ℕ) : Prop := unassignedAddress < x ∧ x < virtualAddressLow

def elementAddresses (address : UInt16) (count : UInt8) : List UInt16 :=
  (List.range count.toNat).map fun i => address + UInt16.ofNat i

/-- The address returned to the daemon, and the provisioner afterwards. -/
def Provisioner.handleRequestProvData (p : Provisioner) (count : UInt8) : UInt16 × Provisioner :=
  (p.mUnicastAddressAvailable,
    { mUnicastAddresses :=
        p.mUnicastAddresses ++ elementAddresses p.mUnicastAddressAvailable count
      mUnicastAddressAvailable := p.mUnicastAddressAvailable + count.toUInt16 })

/-- The order in which `std::sort` puts addresses. -/
def addressLe (a b : UInt16) : Prop := a.toNat ≤ b.toNat

instance : DecidableRel addressLe := fun a b => Nat.decLe a.toNat b.toNat

instance : Std.Total addressLe := ⟨fun a b => Nat.le_total a.toNat b.toNat⟩

instance : IsTrans UInt16 addressLe := ⟨fun _ _ _ => Nat.le_trans⟩

/-- No element of an empty list is at `n - 1`. -/
def Provisioner.updateNodeInfo (_ : Provisioner) (unicastAddresses : List UInt16) :
    Access (BluetoothError × Provisioner) := do
  let sorted := unicastAddresses.insertionSort addressLe
  let n := sorted.length
  let last ← readAt sorted (n - 1)
  return (.none,
    { mUnicastAddresses := sorted
      mUnicastAddressAvailable := last + 1 })

/-! ### Runs -/

structure Node where
  start : UInt16
  count : UInt8
  completed : Bool
  deriving DecidableEq, Repr

def Node.range (node : Node) : Range := ⟨node.start.toNat, node.count.toNat⟩

def Node.addresses (node : Node) : List UInt16 := elementAddresses node.start node.count

/-- Nodes are named by their position. A node leaves when its provisioning fails and when
it is removed from the network. -/
inductive ProvEvent
  | handleRequestProvData (count : UInt8)
  | handleAddNodeComplete (node : ℕ)
  | nodeLeft (node : ℕ)
  | updateNodeInfo (unicastAddresses : List UInt16)
  deriving DecidableEq, Repr

structure ProvRun where
  prov : Provisioner := {}
  nodes : List Node := []
  isDefined : Bool := true
  deriving DecidableEq, Repr

-- decided over the elements of the list, not over all addresses there are
instance decidableAllMem (xs ys : List UInt16) : Decidable (∀ a ∈ xs, a ∈ ys) :=
  List.decidableBAll _ _

instance decidableReaches (n : ℕ) (xs : List UInt16) : Decidable (∃ a ∈ xs, n ≤ a.toNat + 1) :=
  List.decidableBEx _ _

/-- A list of addresses has those of all nodes whose provisioning has completed. -/
def ProvRun.step (s : ProvRun) : ProvEvent → Option ProvRun
  | .handleRequestProvData count =>
    if count = 0 then none
    else
      let (start, prov) := s.prov.handleRequestProvData count
      some { s with prov := prov, nodes := ⟨start, count, false⟩ :: s.nodes }
  | .handleAddNodeComplete node =>
    some { s with nodes := s.nodes.modify node fun n => { n with completed := true } }
  | .nodeLeft node => some { s with nodes := s.nodes.eraseIdx node }
  | .updateNodeInfo unicastAddresses =>
    if ∀ node ∈ s.nodes, node.completed → ∀ a ∈ node.addresses, a ∈ unicastAddresses then
      match s.prov.updateNodeInfo unicastAddresses with
      | .ok (_, prov) => some { s with prov := prov }
      | .error _ => some { s with isDefined := false }
    else none

def provMachine : Machine ProvRun ProvEvent where
  init := {}
  step := ProvRun.step

/-- The ranges of the nodes are disjoint ranges of unicast addresses, and no call has read
outside its list. -/
structure ProvRun.Sound (s : ProvRun) : Prop where
  disjoint : (s.nodes.map Node.range).Pairwise Range.Disjoint
  unicast : ∀ node ∈ s.nodes, ∀ a, node.range.Contains a → IsUnicast a
  isDefined : s.isDefined = true

/-- The addresses asked for are left, and a list is not empty and reaches up to the last
address of every node that is being provisioned. -/
def ProvRun.Covers (s : ProvRun) : ProvEvent → Prop
  | .handleRequestProvData count =>
    0 < s.prov.mUnicastAddressAvailable.toNat ∧
      s.prov.mUnicastAddressAvailable.toNat + count.toNat ≤ virtualAddressLow
  | .handleAddNodeComplete _ => True
  | .nodeLeft _ => True
  | .updateNodeInfo unicastAddresses =>
    unicastAddresses ≠ [] ∧
      ∀ node ∈ s.nodes, node.completed = false →
        ∃ a ∈ unicastAddresses, node.range.stop ≤ a.toNat + 1

instance : DecidableRel ProvRun.Covers := fun _ e =>
  match e with
  | .handleRequestProvData _ => inferInstanceAs (Decidable (_ ∧ _))
  | .handleAddNodeComplete _ => inferInstanceAs (Decidable True)
  | .nodeLeft _ => inferInstanceAs (Decidable True)
  | .updateNodeInfo _ => inferInstanceAs (Decidable (_ ∧ _))

/-- The counter is past all ranges, or it has wrapped to the unassigned address. -/
structure ProvRun.Inv (s : ProvRun) : Prop where
  sound : s.Sound
  nonempty : ∀ node ∈ s.nodes, node.count ≠ 0
  below : s.prov.mUnicastAddressAvailable = 0 ∨
    Below s.prov.mUnicastAddressAvailable.toNat (s.nodes.map Node.range)

theorem Node.stop_le_of_unicast {node : Node} (hcount : node.count ≠ 0)
    (h : ∀ a, node.range.Contains a → IsUnicast a) : node.range.stop ≤ virtualAddressLow := by
  have hpos : 0 < node.count.toNat := by
    rw [Nat.pos_iff_ne_zero]
    intro hzero
    exact hcount (UInt8.toNat_inj.mp hzero)
  have hmem : node.range.Contains (node.range.stop - 1) := by
    unfold Range.Contains Range.stop Node.range
    dsimp only
    omega
  have hlast := (h _ hmem).2
  omega

theorem Node.exists_address {node : Node} (hcount : node.count ≠ 0)
    (h : ∀ a, node.range.Contains a → IsUnicast a) :
    ∃ a ∈ node.addresses, node.range.stop ≤ a.toNat + 1 := by
  have hpos : 0 < node.count.toNat := by
    rw [Nat.pos_iff_ne_zero]
    intro hzero
    exact hcount (UInt8.toNat_inj.mp hzero)
  have hstop := Node.stop_le_of_unicast hcount h
  refine ⟨node.start + UInt16.ofNat (node.count.toNat - 1),
    List.mem_map_of_mem (List.mem_range.mpr (by omega)), ?_⟩
  have hcount := node.count.toNat_lt
  unfold Range.stop Node.range virtualAddressLow at *
  dsimp only at hstop ⊢
  rw [UInt16.toNat_add, UInt16.toNat_ofNat']
  omega

theorem updateNodeInfo_spec {p : Provisioner} {xs : List UInt16} (hxs : xs ≠ []) :
    ∃ m p', p.updateNodeInfo xs = .ok (.none, p') ∧ p'.mUnicastAddressAvailable = m + 1 ∧
      ∀ a ∈ xs, a ≤ m := by
  have hne : xs.insertionSort addressLe ≠ [] := by
    intro h
    apply hxs
    rw [← List.length_eq_zero_iff, ← List.length_insertionSort addressLe xs, h, List.length_nil]
  obtain ⟨m, hm⟩ := Option.isSome_iff_exists.mp (List.getLast?_isSome.mpr hne)
  refine ⟨m, ⟨xs.insertionSort addressLe, m + 1⟩, ?_, rfl, fun a ha => rel_last_insertionSort ha hm⟩
  unfold Provisioner.updateNodeInfo
  rw [List.getLast?_eq_getElem?] at hm
  dsimp only
  rw [readAt_of_getElem? hm]
  rfl

theorem request_inv {s : ProvRun} {count : UInt8} (h : s.Inv) (hcount : count ≠ 0)
    (hpos : 0 < s.prov.mUnicastAddressAvailable.toNat)
    (hroom : s.prov.mUnicastAddressAvailable.toNat + count.toNat ≤ virtualAddressLow) :
    ProvRun.Inv
      { s with
        prov := (s.prov.handleRequestProvData count).2
        nodes := ⟨s.prov.mUnicastAddressAvailable, count, false⟩ :: s.nodes } := by
  have hbelow : Below s.prov.mUnicastAddressAvailable.toNat (s.nodes.map Node.range) := by
    apply h.below.resolve_left
    intro hzero
    rw [hzero] at hpos
    exact absurd hpos (by decide)
  have hnext : (s.prov.handleRequestProvData count).2.mUnicastAddressAvailable.toNat =
      s.prov.mUnicastAddressAvailable.toNat + count.toNat := by
    unfold virtualAddressLow at hroom
    change (s.prov.mUnicastAddressAvailable + count.toUInt16).toNat = _
    rw [UInt16.toNat_add, UInt8.toNat_toUInt16]
    omega
  constructor
  · constructor
    · exact hbelow.pairwise_cons h.sound.disjoint
    · intro node hnode a ha
      rcases List.mem_cons.mp hnode with rfl | hnode
      · unfold Range.Contains Range.stop Node.range at ha
        unfold IsUnicast unassignedAddress
        dsimp only at ha
        omega
      · exact h.sound.unicast node hnode a ha
    · exact h.sound.isDefined
  · intro node hnode
    rcases List.mem_cons.mp hnode with rfl | hnode
    · exact hcount
    · exact h.nonempty node hnode
  · right
    rw [hnext]
    exact hbelow.cons

theorem map_range_modify (nodes : List Node) (i : ℕ) :
    (nodes.modify i fun n => { n with completed := true }).map Node.range =
      nodes.map Node.range := by
  induction nodes generalizing i with
  | nil => simp
  | cons n nodes ih =>
      cases i with
      | zero => rfl
      | succ i =>
          rw [List.modify_succ_cons, List.map_cons, ih]
          rfl

theorem complete_inv {s : ProvRun} (h : s.Inv) (i : ℕ) :
    ProvRun.Inv { s with nodes := s.nodes.modify i fun n => { n with completed := true } } := by
  have hold : ∀ node ∈ s.nodes.modify i fun n => { n with completed := true },
      ∃ old ∈ s.nodes, node.range = old.range ∧ node.count = old.count := by
    intro node hnode
    obtain ⟨j, hj⟩ := List.mem_iff_getElem?.mp hnode
    rw [List.getElem?_modify] at hj
    cases hget : s.nodes[j]? with
    | none => simp [hget] at hj
    | some old =>
        refine ⟨old, List.mem_of_getElem? hget, ?_⟩
        rw [hget, Option.map_eq_map, Option.map_some, Option.some.injEq] at hj
        subst hj
        split_ifs
        · exact ⟨rfl, rfl⟩
        · exact ⟨rfl, rfl⟩
  constructor
  · constructor
    · rw [map_range_modify]
      exact h.sound.disjoint
    · intro node hnode a ha
      obtain ⟨old, hmem, hrange, _⟩ := hold node hnode
      rw [hrange] at ha
      exact h.sound.unicast old hmem a ha
    · exact h.sound.isDefined
  · intro node hnode
    obtain ⟨old, hmem, _, hcount⟩ := hold node hnode
    rw [hcount]
    exact h.nonempty old hmem
  · rw [map_range_modify]
    exact h.below

theorem leave_inv {s : ProvRun} (h : s.Inv) (i : ℕ) :
    ProvRun.Inv { s with nodes := s.nodes.eraseIdx i } := by
  have hsub : s.nodes.eraseIdx i ⊆ s.nodes := (List.eraseIdx_sublist _ _).subset
  have hranges := (List.eraseIdx_sublist s.nodes i).map Node.range
  constructor
  · constructor
    · exact h.sound.disjoint.sublist hranges
    · intro node hnode
      exact h.sound.unicast node (hsub hnode)
    · exact h.sound.isDefined
  · intro node hnode
    exact h.nonempty node (hsub hnode)
  · exact h.below.imp_right fun hbelow => hbelow.subset hranges.subset

/-- After a list that covers all nodes the counter is past them. -/
theorem update_inv {s : ProvRun} {xs : List UInt16} {m : UInt16} {p : Provisioner} (h : s.Inv)
    (hm : ∀ a ∈ xs, a ≤ m) (hp : p.mUnicastAddressAvailable = m + 1)
    (hcompleted : ∀ node ∈ s.nodes, node.completed → ∀ a ∈ node.addresses, a ∈ xs)
    (hcovers : ∀ node ∈ s.nodes, node.completed = false →
      ∃ a ∈ xs, node.range.stop ≤ a.toNat + 1) :
    ProvRun.Inv { s with prov := p } := by
  have hstop : ∀ node ∈ s.nodes, node.range.stop ≤ m.toNat + 1 := by
    intro node hnode
    have hexists : ∃ a ∈ xs, node.range.stop ≤ a.toNat + 1 := by
      cases hc : node.completed with
      | false => exact hcovers node hnode hc
      | true =>
          obtain ⟨a, ha, hle⟩ :=
            Node.exists_address (h.nonempty node hnode) (h.sound.unicast node hnode)
          exact ⟨a, hcompleted node hnode hc a ha, hle⟩
    obtain ⟨a, ha, hle⟩ := hexists
    have := UInt16.le_iff_toNat_le.mp (hm a ha)
    omega
  constructor
  · exact ⟨h.sound.disjoint, h.sound.unicast, h.sound.isDefined⟩
  · exact h.nonempty
  · dsimp only
    rw [hp]
    by_cases htop : m.toNat + 1 = 2 ^ 16
    · left
      apply UInt16.toNat_inj.mp
      rw [UInt16.toNat_add, UInt16.toNat_one, htop]
      rfl
    · right
      have hlt := m.toNat_lt
      have hnext : (m + 1).toNat = m.toNat + 1 := by
        rw [UInt16.toNat_add, UInt16.toNat_one]
        omega
      rw [hnext]
      intro r hr
      obtain ⟨node, hnode, rfl⟩ := List.mem_map.mp hr
      exact hstop node hnode

theorem ProvRun.step_inv {s t : ProvRun} {e : ProvEvent} (h : s.Inv) (hg : s.Covers e)
    (hs : s.step e = some t) : t.Inv := by
  cases e with
  | handleRequestProvData count =>
      simp only [step] at hs
      split_ifs at hs with hcount
      cases hs
      exact request_inv h hcount hg.1 hg.2
  | handleAddNodeComplete node =>
      cases hs
      exact complete_inv h node
  | nodeLeft node =>
      cases hs
      exact leave_inv h node
  | updateNodeInfo xs =>
      simp only [step] at hs
      split_ifs at hs with hcompleted
      obtain ⟨m, p, hupdate, hp, hm⟩ := updateNodeInfo_spec (p := s.prov) hg.1
      rw [hupdate] at hs
      cases hs
      exact update_inv h hm hp hcompleted hg.2

theorem init_inv : provMachine.init.Inv := by
  constructor
  · constructor
    · exact List.Pairwise.nil
    · intro node hnode
      cases hnode
    · rfl
  · intro node hnode
    cases hnode
  · right
    intro r hr
    cases hr

/-- As long as the lists of the client cover the nodes that are being provisioned and
unicast addresses are left, no address is handed out twice. -/
theorem handedOut_sound {s : ProvRun} (h : provMachine.ReachWith ProvRun.Covers s) : s.Sound := by
  have hinv : s.Inv := h.invariant init_inv fun _ _ _ => ProvRun.step_inv
  exact hinv.sound

/-- A node is being provisioned when the client sends the list of the nodes it knows. -/
def listBeforeCompletion : List ProvEvent :=
  [.handleRequestProvData 1, .handleAddNodeComplete 0, .handleRequestProvData 1,
    .updateNodeInfo [0x00aa], .handleRequestProvData 1]

/-- The address `0x00ab` is handed out twice. -/
theorem handedOut_twice : ¬ ∀ s, provMachine.Reach s → s.Sound := by
  intro h
  have hs := h _ (Machine.reach_of_run listBeforeCompletion rfl)
  have hdisjoint := (List.pairwise_cons.mp hs.disjoint).1 ⟨0xab, 1⟩ List.mem_cons_self
  exact hdisjoint 0xab ⟨Nat.le_refl _, Nat.lt_succ_self _⟩ ⟨Nat.le_refl _, Nat.lt_succ_self _⟩

/-- A node is given two addresses and completes, and another one is given the next. -/
theorem handedOut_sound_twoNodes : ProvRun.Sound
    { prov := ⟨[0x00aa, 0x00ab, 0x00ac], 0x00ad⟩
      nodes := [⟨0x00ac, 1, false⟩, ⟨0x00aa, 2, true⟩] } :=
  handedOut_sound (Machine.reachWith_of_runWith
    [.handleRequestProvData 2, .handleAddNodeComplete 0, .updateNodeInfo [0x00aa, 0x00ab],
      .handleRequestProvData 1] .init rfl)

end BluezSil.Mesh
