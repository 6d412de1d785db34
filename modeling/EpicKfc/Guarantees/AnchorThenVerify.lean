import EpicKfc.Source.Blockchain.Blocks
import EpicKfc.Source.Blockchain.ConversationCalls

/-!
# Anchored conversations verify

A batch is verified by sorting the caller's list again, so the order of a batch must
follow from its messages alone. The comparator orders by time where both messages
have one and by id otherwise; it is consistent exactly when no message without a time
stands by its id between two messages whose times and ids disagree.
-/

namespace EpicKfc.Guarantees.AnchorThenVerify
open EpicKfc.Lib
open EpicKfc.Lib.Keccak (Byte)
open EpicKfc.Lib.HashTree
open EpicKfc.Source.Blockchain
open EpicKfc.Source.Blockchain.Merkle
open EpicKfc.Source.Blockchain.MessageFidelity
open EpicKfc.Source.Blockchain.Blocks
open EpicKfc.Source.Blockchain.Conversation
open EpicKfc.Source.Server (Uuid)

variable {keccak256 : List Byte → Bytes32} {localeCompare : String → String → Ordering}

def time (message : AnchoredMessage) : String := message.createdAt.getD ""

/-- The message has a time the comparator looks at. -/
def Stamped (message : AnchoredMessage) : Prop := time message ≠ ""

/-- No message without a time stands by its id between two whose times and ids disagree. -/
def Untangled (localeCompare : String → String → Ordering) (messages : List AnchoredMessage) : Prop :=
  ∀ x ∈ messages, ∀ y ∈ messages, ∀ z ∈ messages, Stamped x → Stamped y → ¬ Stamped z →
    localeCompare (time x) (time y) = .lt → localeCompare y.messageId z.messageId = .lt →
      localeCompare z.messageId x.messageId ≠ .lt

/-- A batch that was anchored passes for each of its messages, from every order of them and of the
users, whatever calls the contract took since. -/
def AlwaysVerifies (keccak256 : List Byte → Bytes32) (localeCompare : String → String → Ordering)
    (messages : List AnchoredMessage) : Prop :=
  ∀ sort, Conforms sort → ∀ sender now userIdA userIdB segmentKey contract result contract',
    anchorConversationOnChain keccak256 sort localeCompare sender now userIdA userIdB messages
      segmentKey contract = .ok (result, contract') →
    ∀ messages' calls, List.Perm messages' messages →
      ∀ users ∈ [(userIdA, userIdB), (userIdB, userIdA)], ∀ message ∈ messages,
        ∃ verdict, verifyMessageOnChain keccak256 sort localeCompare users.1 users.2 messages'
          message.messageId segmentKey (executeAll calls contract') = .ok verdict ∧
          verdict.pass = true

/-! ## The comparator -/

section Comparator
variable (strict : StrictTotal localeCompare)
include strict

theorem lt_irrefl (a : String) : localeCompare a a ≠ .lt := by
  rw [(strict.eq_iff a a).mpr rfl]
  decide

theorem lt_asymm {a b : String} (before : localeCompare a b = .lt) : localeCompare b a ≠ .lt :=
  fun after => lt_irrefl strict a (strict.trans a b a before after)

/-- Both times count and differ. -/
def ByTime (a b : AnchoredMessage) : Prop := Stamped a ∧ Stamped b ∧ time a ≠ time b

omit strict in
theorem compare_byTime {a b : AnchoredMessage} (timed : ByTime a b) :
    compareMessages localeCompare a b = localeCompare (time a) (time b) := if_pos timed

omit strict in
theorem compare_byId {a b : AnchoredMessage} (untimed : ¬ ByTime a b) :
    compareMessages localeCompare a b = localeCompare a.messageId b.messageId := if_neg untimed

omit strict in
theorem byTime_comm {a b : AnchoredMessage} : ByTime a b ↔ ByTime b a :=
  ⟨fun ⟨here, there, differ⟩ => ⟨there, here, differ.symm⟩,
    fun ⟨here, there, differ⟩ => ⟨there, here, differ.symm⟩⟩

theorem compare_gt_iff (a b : AnchoredMessage) :
    compareMessages localeCompare a b = .gt ↔ compareMessages localeCompare b a = .lt := by
  by_cases timed : ByTime a b
  · rw [compare_byTime timed, compare_byTime (byTime_comm.mp timed), strict.gt_iff]
  · rw [compare_byId timed, compare_byId (fun back => timed (byTime_comm.mp back)), strict.gt_iff]

theorem compare_eq_iff {a b : AnchoredMessage} (distinct : a.messageId = b.messageId → a = b) :
    compareMessages localeCompare a b = .eq ↔ a = b := by
  by_cases timed : ByTime a b
  · rw [compare_byTime timed, strict.eq_iff]
    exact iff_of_false timed.2.2 fun same => timed.2.2 (congrArg time same)
  · rw [compare_byId timed, strict.eq_iff]
    exact ⟨distinct, congrArg AnchoredMessage.messageId⟩

/-- Among messages with times the order is by time, then by id. -/
theorem compare_lt_stamped {a b : AnchoredMessage} (here : Stamped a) (there : Stamped b) :
    compareMessages localeCompare a b = .lt ↔ localeCompare (time a) (time b) = .lt ∨
      time a = time b ∧ localeCompare a.messageId b.messageId = .lt := by
  by_cases same : time a = time b
  · rw [compare_byId fun timed => timed.2.2 same, same]
    simp [lt_irrefl strict]
  · rw [compare_byTime ⟨here, there, same⟩]
    simp [same]

theorem stamped_trans {a b c : AnchoredMessage} (ha : Stamped a) (hb : Stamped b) (hc : Stamped c)
    (first : compareMessages localeCompare a b = .lt)
    (second : compareMessages localeCompare b c = .lt) :
    compareMessages localeCompare a c = .lt := by
  rw [compare_lt_stamped strict ha hb] at first
  rw [compare_lt_stamped strict hb hc] at second
  rw [compare_lt_stamped strict ha hc]
  rcases first with first | ⟨same, first⟩
  · rcases second with second | ⟨same', -⟩
    · exact Or.inl (strict.trans _ _ _ first second)
    · exact Or.inl (same' ▸ first)
  · rcases second with second | ⟨same', second⟩
    · exact Or.inl (same ▸ second)
    · exact Or.inr ⟨same.trans same', strict.trans _ _ _ first second⟩

/-- A circle through a message without a time tangles the batch. -/
theorem no_cycle_unstamped {messages : List AnchoredMessage}
    (untangled : Untangled localeCompare messages) {a b c : AnchoredMessage} (ha : a ∈ messages)
    (hb : b ∈ messages) (hc : c ∈ messages) (unstamped : ¬ Stamped c)
    (ab : compareMessages localeCompare a b = .lt) (bc : compareMessages localeCompare b c = .lt) :
    compareMessages localeCompare c a ≠ .lt := by
  intro ca
  rw [compare_byId fun timed => unstamped timed.2.1] at bc
  rw [compare_byId fun timed => unstamped timed.1] at ca
  by_cases timed : ByTime a b
  · rw [compare_byTime timed] at ab
    exact untangled a ha b hb c hc timed.1 timed.2.1 unstamped ab bc ca
  · rw [compare_byId timed] at ab
    exact lt_asymm strict ab (strict.trans _ _ _ bc ca)

theorem no_cycle {messages : List AnchoredMessage} (untangled : Untangled localeCompare messages)
    {a b c : AnchoredMessage} (ha : a ∈ messages) (hb : b ∈ messages) (hc : c ∈ messages)
    (ab : compareMessages localeCompare a b = .lt) (bc : compareMessages localeCompare b c = .lt) :
    compareMessages localeCompare c a ≠ .lt := by
  intro ca
  by_cases stampedA : Stamped a
  · by_cases stampedB : Stamped b
    · by_cases stampedC : Stamped c
      · have ac := stamped_trans strict stampedA stampedB stampedC ab bc
        rw [(compare_gt_iff strict a c).mpr ca] at ac
        cases ac
      · exact no_cycle_unstamped strict untangled ha hb hc stampedC ab bc ca
    · exact no_cycle_unstamped strict untangled hc ha hb stampedB ca ab bc
  · exact no_cycle_unstamped strict untangled hb hc ha stampedA bc ca ab

section Batches
variable {messages : List AnchoredMessage}
  (distinct : (messages.map AnchoredMessage.messageId).Nodup)
include distinct

theorem compare_eq_iff_of_mem {a b : AnchoredMessage} (ha : a ∈ messages) (hb : b ∈ messages) :
    compareMessages localeCompare a b = .eq ↔ a = b :=
  compare_eq_iff strict (List.inj_on_of_nodup_map distinct ha hb)

theorem compare_lt_trans (untangled : Untangled localeCompare messages) {a b c : AnchoredMessage}
    (ha : a ∈ messages) (hb : b ∈ messages) (hc : c ∈ messages)
    (ab : compareMessages localeCompare a b = .lt) (bc : compareMessages localeCompare b c = .lt) :
    compareMessages localeCompare a c = .lt := by
  cases answer : compareMessages localeCompare a c with
  | lt => rfl
  | eq =>
    obtain rfl := (compare_eq_iff_of_mem strict distinct ha hc).mp answer
    rw [(compare_gt_iff strict a b).mpr bc] at ab
    cases ab
  | gt => exact absurd ((compare_gt_iff strict a c).mp answer) (no_cycle strict untangled ha hb hc ab bc)

/-- The comparator is consistent for a batch exactly when it is not tangled. -/
theorem consistent_iff :
    Consistent (compareMessages localeCompare) messages ↔ Untangled localeCompare messages := by
  constructor
  · intro consistent x hx y hy z hz stampedX stampedY unstamped xy yz zx
    have timed : ByTime x y :=
      ⟨stampedX, stampedY, fun same => lt_irrefl strict (time y) (same ▸ xy)⟩
    have first : compareMessages localeCompare x y = .lt := (compare_byTime timed).trans xy
    have second : compareMessages localeCompare y z = .lt :=
      (compare_byId fun timed => unstamped timed.2.1).trans yz
    have third : compareMessages localeCompare z x = .lt :=
      (compare_byId fun timed => unstamped timed.1).trans zx
    have across := consistent.lt_trans x hx y hy z hz first second
    rw [(compare_gt_iff strict x z).mpr third] at across
    cases across
  · intro untangled
    exact {
      refl := fun a ha => (compare_eq_iff_of_mem strict distinct ha ha).mpr rfl
      symm := fun a ha b hb same => by
        rw [compare_eq_iff_of_mem strict distinct ha hb] at same
        exact (compare_eq_iff_of_mem strict distinct hb ha).mpr same.symm
      eq_trans := fun a ha b hb c hc same same' => by
        rw [compare_eq_iff_of_mem strict distinct ha hb] at same
        rw [compare_eq_iff_of_mem strict distinct hb hc] at same'
        exact (compare_eq_iff_of_mem strict distinct ha hc).mpr (same.trans same')
      lt_trans := fun a ha b hb c hc ab bc =>
        compare_lt_trans strict distinct untangled ha hb hc ab bc
      gt_trans := fun a ha b hb c hc ab bc => by
        rw [compare_gt_iff strict] at ab bc ⊢
        exact compare_lt_trans strict distinct untangled hc hb ha bc ab }

/-- Every order of a batch is sorted to the same one. -/
theorem sort_eq_of_perm {sort : ArraySort} (conforms : Conforms sort)
    (untangled : Untangled localeCompare messages) {messages' : List AnchoredMessage}
    (perm : List.Perm messages' messages) :
    sort (compareMessages localeCompare) messages' = sort (compareMessages localeCompare) messages := by
  have consistent := (consistent_iff strict distinct).mpr untangled
  have consistent' : Consistent (compareMessages localeCompare) messages' := by
    have distinct' := (perm.map AnchoredMessage.messageId).nodup_iff.mpr distinct
    apply (consistent_iff strict distinct').mpr
    intro x hx y hy z hz
    exact untangled x (perm.mem_iff.mp hx) y (perm.mem_iff.mp hy) z (perm.mem_iff.mp hz)
  have sorted := conforms.perm (compareMessages localeCompare) messages
  have sorted' := conforms.perm (compareMessages localeCompare) messages'
  refine List.Perm.eq_of_pairwise ?_ (conforms.sorted _ _ consistent')
    (conforms.sorted _ _ consistent) ((sorted'.trans perm).trans sorted.symm)
  intro a b ha hb notAfter notBefore
  have ha' := perm.mem_iff.mp (sorted'.mem_iff.mp ha)
  have hb' := sorted.mem_iff.mp hb
  rw [← compare_eq_iff_of_mem strict distinct ha' hb']
  cases answer : compareMessages localeCompare a b with
  | lt => exact absurd answer notBefore
  | eq => rfl
  | gt => exact absurd ((compare_gt_iff strict a b).mp answer) notAfter

end Batches

end Comparator

/-! ## Verification of other orders -/

section Verification
variable {messages messages' : List AnchoredMessage}

theorem untangled_of_perm (perm : List.Perm messages' messages)
    (untangled : Untangled localeCompare messages) : Untangled localeCompare messages' :=
  fun x hx y hy z hz => untangled x (perm.mem_iff.mp hx) y (perm.mem_iff.mp hy) z (perm.mem_iff.mp hz)

/-- The tree depends only on the sorted list. -/
theorem build_eq_of_sort {sort : ArraySort} (perm : List.Perm messages' messages)
    (same : sort (compareMessages localeCompare) messages' =
      sort (compareMessages localeCompare) messages) :
    buildConversationMerkleTree keccak256 sort localeCompare messages' =
      buildConversationMerkleTree keccak256 sort localeCompare messages := by
  have empty : messages' = [] ↔ messages = [] := by
    rw [← List.length_eq_zero_iff, ← List.length_eq_zero_iff, perm.length_eq]
  rw [buildConversationMerkleTree, buildConversationMerkleTree, same]
  simp only [empty]

theorem recordId_of_order {userIdA userIdB segmentKey : String} {users : String × String}
    (order : users ∈ [(userIdA, userIdB), (userIdB, userIdA)]) :
    deriveConversationSegmentRecordId keccak256 users.1 users.2 segmentKey =
      deriveConversationSegmentRecordId keccak256 userIdA userIdB segmentKey := by
  rw [List.mem_cons, List.mem_singleton] at order
  rcases order with rfl | rfl
  · rfl
  · exact recordId_comm userIdB userIdA segmentKey

theorem alwaysVerifies_of_untangled (strict : StrictTotal localeCompare)
    (distinct : (messages.map AnchoredMessage.messageId).Nodup)
    (untangled : Untangled localeCompare messages) :
    AlwaysVerifies keccak256 localeCompare messages := by
  intro sort conforms sender now userIdA userIdB segmentKey contract result contract' anchored
    messages' calls perm users order message member
  obtain ⟨conversation, event, built, stored⟩ := anchorConversation_ok anchored
  have kept := (holds_executeAll calls contract' _ _).mpr (Or.inl (holds_of_storeHash stored))
  have rebuilt : buildConversationMerkleTree keccak256 sort localeCompare messages' =
      .ok conversation :=
    (build_eq_of_sort perm (sort_eq_of_perm strict distinct conforms untangled perm)).trans built
  rw [← segmentKeyOf_perm perm, ← recordId_of_order order] at kept
  exact verifyMessage_passes conforms rebuilt
    ((perm.map AnchoredMessage.messageId).nodup_iff.mpr distinct) kept (perm.mem_iff.mpr member)

/-- The language lets a sort leave a list alone where the comparator is not consistent. -/
theorem exists_idle_sort : ∃ sort, Conforms sort ∧
    ∀ compare items, ¬ Consistent compare items → sort compare items = items := by
  classical
  refine ⟨fun compare items =>
    if Consistent compare items then insertionSort compare items else items, ⟨?_, ?_⟩, ?_⟩
  · intro compare items
    split
    · exact conforms_insertionSort.perm compare items
    · exact List.Perm.refl items
  · intro compare items consistent
    rw [if_pos consistent]
    exact conforms_insertionSort.sorted compare items consistent
  · intro compare items inconsistent
    exact if_neg inconsistent

/-- A tangle takes three messages. -/
theorem three_of_tangled (strict : StrictTotal localeCompare)
    (tangled : ¬ Untangled localeCompare messages) :
    ∃ a b c rest, messages = a :: b :: c :: rest := by
  simp only [Untangled, not_forall, not_not] at tangled
  obtain ⟨x, hx, y, hy, z, hz, stampedX, stampedY, unstamped, before, -⟩ := tangled
  have xy : x ≠ y := fun same => lt_irrefl strict (time y) (same ▸ before)
  have xz : x ≠ z := fun same => unstamped (same ▸ stampedX)
  have yz : y ≠ z := fun same => unstamped (same ▸ stampedY)
  have nodup : [x, y, z].Nodup := by simp [xy, xz, yz]
  have within : [x, y, z] ⊆ messages := by simp [hx, hy, hz]
  have long := (List.subperm_of_subset nodup within).length_le
  match messages, long with
  | a :: b :: c :: rest, _ => exact ⟨a, b, c, rest, rfl⟩

/-- Exchanging the first and the third of distinct messages changes the tree for more than the
order of siblings. -/
theorem not_same_of_exchanged {a b c : AnchoredMessage} {rest : List AnchoredMessage}
    (distinct : ((a :: b :: c :: rest).map AnchoredMessage.messageId).Nodup) :
    ¬ Tree.SameUpToSwaps
      (treeOf (leafInputOf keccak256 a) ((b :: c :: rest).map (leafInputOf keccak256)))
      (treeOf (leafInputOf keccak256 c) ((b :: a :: rest).map (leafInputOf keccak256))) := by
  intro same
  simp only [List.map_cons, List.nodup_cons, List.mem_cons, not_or, List.mem_map, not_exists,
    not_and] at distinct
  obtain ⟨⟨ab, ac, aRest⟩, ⟨bc, bRest⟩, -⟩ := distinct
  have different {m m' : AnchoredMessage} (ids : m.messageId ≠ m'.messageId) :
      leafInputOf keccak256 m ≠ leafInputOf keccak256 m' := fun equal => ids (leafInput_inj equal).1
  have apart {m : AnchoredMessage} (ids : ∀ other ∈ rest, ¬ other.messageId = m.messageId) :
      leafInputOf keccak256 m ∉ rest.map (leafInputOf keccak256) := by
    intro member
    obtain ⟨other, belongs, equal⟩ := List.mem_map.mp member
    exact different (ids other belongs) equal
  have siblings : (treeOf (leafInputOf keccak256 a)
      ((b :: c :: rest).map (leafInputOf keccak256))).Together (leafInputOf keccak256 a)
        (leafInputOf keccak256 b) :=
    together_treeOf.mpr ⟨_, List.mem_cons_self, Or.inl rfl⟩
  obtain ⟨pair, belongs, order⟩ := together_treeOf.mp (same.together siblings)
  rw [List.map_cons, PairTree.pairs, List.mem_cons] at belongs
  rcases belongs with rfl | later
  · rcases order with order | order
    · exact different (Ne.symm ac) (Prod.mk.inj order).1
    · exact different (Ne.symm bc) (Prod.mk.inj order).1
  · obtain ⟨left, right⟩ := PairTree.mem_of_mem_pairs later
    have listed : leafInputOf keccak256 b ∈ leafInputOf keccak256 a :: rest.map (leafInputOf keccak256) := by
      rcases order with rfl | rfl
      · exact right
      · exact left
    rcases List.mem_cons.mp listed with equal | member
    · exact different (Ne.symm ab) equal
    · exact apart bRest member

/-- The earliest time of a block. -/
def firstSecond : BlockTime := ⟨1, by decide⟩

/-- Where a tangled batch verifies from every order, two of its trees collide. -/
theorem collides_of_tangled (strict : StrictTotal localeCompare)
    (distinct : (messages.map AnchoredMessage.messageId).Nodup)
    (tangled : ¬ Untangled localeCompare messages)
    (always : AlwaysVerifies keccak256 localeCompare messages) :
    ∃ order order', List.Perm order messages ∧ List.Perm order' messages ∧
      Collides keccak256 (hashedByBuild keccak256 order ++ hashedByBuild keccak256 order') := by
  obtain ⟨a, b, c, rest, rfl⟩ := three_of_tangled strict tangled
  obtain ⟨sort, conforms, idle⟩ := exists_idle_sort
  have perm : List.Perm (c :: b :: a :: rest) (a :: b :: c :: rest) :=
    ((List.Perm.swap b c (a :: rest)).trans ((List.Perm.swap a c rest).cons b)).trans
      (List.Perm.swap a b (c :: rest))
  have idle' (order : List AnchoredMessage) (permuted : List.Perm order (a :: b :: c :: rest)) :
      sort (compareMessages localeCompare) order = order := by
    apply idle
    have distinct' := (permuted.map AnchoredMessage.messageId).nodup_iff.mpr distinct
    rw [consistent_iff strict distinct']
    exact fun untangled => tangled (untangled_of_perm permuted.symm untangled)
  -- the anchor of one order is checked from the other
  obtain ⟨conversation, built⟩ := @buildConversation_isOk keccak256 sort localeCompare conforms
    (a :: b :: c :: rest) (List.cons_ne_nil _ _)
  obtain ⟨⟨contract', event⟩, stored⟩ := (@storeHash_isOk_iff 0 firstSecond
    (deriveConversationSegmentRecordId keccak256 "" "" (segmentKeyOf none
      (a :: b :: c :: rest))).value conversation.root.value (deploy 0)).mpr ⟨rfl, rfl⟩
  obtain ⟨result, anchored⟩ := anchorConversation_of_storeHash built stored
  obtain ⟨verdict, verified, passes⟩ := always sort conforms _ _ _ _ _ _ _ _ anchored
    (c :: b :: a :: rest) [] perm ("", "") List.mem_cons_self a List.mem_cons_self
  have holds := holds_of_storeHash stored
  rw [← segmentKeyOf_perm perm] at holds
  obtain ⟨conversation', built', root⟩ := root_of_passes holds verified passes
  refine ⟨a :: b :: c :: rest, c :: b :: a :: rest, List.Perm.refl _, perm, ?_⟩
  by_contra safe
  obtain ⟨first, others, shape, -, digested⟩ := buildConversation_tree conforms built
  obtain ⟨first', others', shape', -, digested'⟩ := buildConversation_tree conforms built'
  rw [(buildConversation_ok built).2.1, idle' _ (List.Perm.refl _)] at shape
  rw [(buildConversation_ok built').2.1, idle' _ perm] at shape'
  cases shape
  cases shape'
  rw [digested, digested', Hex32.value_hexlify, Hex32.value_hexlify] at root
  obtain ⟨height, perfect⟩ := @perfect_treeOf (List Byte) (rest.length + 2)
  apply not_same_of_exchanged distinct
  exact same_of_digest_eq_of_perfect encodes_packPair.swaps safe (perfect _ _ (by simp))
    (perfect _ _ (by simp))
    (fun input member => List.mem_append_left _ (mem_hashedByBuild member))
    (fun input member => List.mem_append_right _ (mem_hashedByBuild member)) root.symm

theorem anchor_then_verify (strict : StrictTotal localeCompare)
    (distinct : (messages.map AnchoredMessage.messageId).Nodup) :
    (Untangled localeCompare messages → AlwaysVerifies keccak256 localeCompare messages) ∧
    (AlwaysVerifies keccak256 localeCompare messages → Untangled localeCompare messages ∨
      ∃ order order', List.Perm order messages ∧ List.Perm order' messages ∧
        Collides keccak256 (hashedByBuild keccak256 order ++ hashedByBuild keccak256 order')) := by
  constructor
  · exact alwaysVerifies_of_untangled strict distinct
  · intro always
    rw [or_iff_not_imp_left]
    exact fun tangled => collides_of_tangled strict distinct tangled always

end Verification

/-! ## Batches with a message without a time -/

def hello : AnchoredMessage := ⟨Uuid.str 7, "hello", some "2026-01-02T00:00:00Z"⟩

def draft : AnchoredMessage := ⟨Uuid.str 8, "draft", none⟩

def welcome : AnchoredMessage := ⟨Uuid.str 9, "welcome", some "2026-01-01T00:00:00Z"⟩

def postscript : AnchoredMessage := ⟨Uuid.str 10, "see you", none⟩

/-- The message without a time does not stand between the two others by its id. -/
def mixed : List AnchoredMessage := [welcome, postscript, hello]

theorem distinct_mixed : (mixed.map AnchoredMessage.messageId).Nodup := by decide

theorem untangled_mixed : Untangled compareCodeUnits mixed := by
  intro x hx y _ z hz _ _ unstamped _ _
  have last : z = postscript := by
    simp only [mixed, List.mem_cons, List.not_mem_nil, or_false] at hz
    rcases hz with rfl | rfl | rfl
    · exact absurd (ne_of_beq_false rfl) unstamped
    · rfl
    · exact absurd (ne_of_beq_false rfl) unstamped
  have before : ∀ message ∈ mixed,
      compareCodeUnits postscript.messageId message.messageId ≠ .lt := by
    decide
  rw [last]
  exact before x hx

theorem anchor_then_verify_mixed : AlwaysVerifies Bytes32.keccak256 compareCodeUnits mixed :=
  (anchor_then_verify strictTotal_compareCodeUnits distinct_mixed).1 untangled_mixed

theorem sorted_anchored : insertionSort (compareMessages compareCodeUnits) [welcome, hello, draft] =
    [welcome, hello, draft] := by
  decide

theorem sorted_rotated : insertionSort (compareMessages compareCodeUnits) [hello, draft, welcome] =
    [hello, draft, welcome] := by
  decide

/-- The root over three messages. -/
def rootOfThree (hash : List Byte → Bytes32) (a b c : AnchoredMessage) : Bytes32 :=
  let leaf := fun message => hash (leafInputOf hash message)
  hash (packPair (hash (packPair (leaf a) (leaf b))) (hash (packPair (leaf c) (leaf c))))

theorem digest_three (a b c : AnchoredMessage) : digest keccak256 packPair
    (treeOf (leafInputOf keccak256 a) ([b, c].map (leafInputOf keccak256))) =
      rootOfThree keccak256 a b c := by
  simp only [treeOf, List.map_cons, List.map_nil, PairTree.root, PairTree.nextLayer, PairTree.pairs,
    digest, hashNode, rootOfThree]

theorem roots_differ : rootOfThree Bytes32.keccak256 welcome hello draft ≠
    rootOfThree Bytes32.keccak256 hello draft welcome := by
  rw [Bytes32.keccak256_eq_evaluated]
  decide +kernel

/-- The root of three messages the sort leaves alone. -/
theorem root_of_three {a b c : AnchoredMessage} {conversation : ConversationTree}
    (built : buildConversationMerkleTree Bytes32.keccak256 insertionSort compareCodeUnits [a, b, c] =
      .ok conversation)
    (kept : insertionSort (compareMessages compareCodeUnits) [a, b, c] = [a, b, c]) :
    conversation.root.value = rootOfThree Bytes32.keccak256 a b c := by
  obtain ⟨first, rest, shape, -, root⟩ := buildConversation_tree conforms_insertionSort built
  rw [(buildConversation_ok built).2.1, kept] at shape
  cases shape
  rw [root, Hex32.value_hexlify, digest_three]

/-- A draft without a time, by its id between two messages: the batch is anchored and then refused in
another order. -/
theorem rotated_batch_is_refused :
    ([welcome, hello, draft].map AnchoredMessage.messageId).Nodup ∧
    List.Perm [hello, draft, welcome] [welcome, hello, draft] ∧
    ∃ result contract', anchorConversationOnChain Bytes32.keccak256 insertionSort compareCodeUnits 0
      firstSecond (Uuid.str 1) (Uuid.str 2) [welcome, hello, draft] none (deploy 0) =
        .ok (result, contract') ∧
      ∀ messageId, ¬ ∃ verdict, verifyMessageOnChain Bytes32.keccak256 insertionSort compareCodeUnits
        (Uuid.str 1) (Uuid.str 2) [hello, draft, welcome] messageId none contract' = .ok verdict ∧
          verdict.pass = true := by
  have perm : List.Perm [hello, draft, welcome] [welcome, hello, draft] :=
    @List.perm_append_comm _ [hello, draft] [welcome]
  obtain ⟨conversation, built⟩ := @buildConversation_isOk Bytes32.keccak256 insertionSort
    compareCodeUnits conforms_insertionSort [welcome, hello, draft] (List.cons_ne_nil _ _)
  obtain ⟨⟨contract', event⟩, stored⟩ := (@storeHash_isOk_iff 0 firstSecond
    (deriveConversationSegmentRecordId Bytes32.keccak256 (Uuid.str 1) (Uuid.str 2)
      (segmentKeyOf none [welcome, hello, draft])).value conversation.root.value (deploy 0)).mpr
        ⟨rfl, rfl⟩
  obtain ⟨result, anchored⟩ := anchorConversation_of_storeHash built stored
  refine ⟨by decide, perm, result, contract', anchored, ?_⟩
  rintro messageId ⟨verdict, verified, passes⟩
  have holds := holds_of_storeHash stored
  rw [← segmentKeyOf_perm perm] at holds
  obtain ⟨conversation', built', root⟩ := root_of_passes holds verified passes
  rw [root_of_three built sorted_anchored, root_of_three built' sorted_rotated] at root
  exact roots_differ root.symm

end EpicKfc.Guarantees.AnchorThenVerify
