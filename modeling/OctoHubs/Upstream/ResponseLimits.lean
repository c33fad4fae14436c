import OctoHubs.Library.Json
import OctoHubs.Library.Sealing
import OctoHubs.Library.Worklists

/-! Limits for what other services answer: the bytes of a body, and the shape of its JSON value. -/

namespace OctoHubs.Upstream

open OctoHubs.Library

section Bytes

structure UpstreamResponse where
  statusError : Option String
  contentLength : Option String
  chunks : Option (List (List UInt8))
  content : List UInt8

variable (readInt? : String → Option Int)

def declaredLength (response : UpstreamResponse) : Except String (Option Int) :=
  match response.contentLength with
  | none => .ok none
  | some rawValue =>
      match readInt? rawValue with
      | none => .error "Content-Length upstream non valido"
      | some length => .ok (some (max 0 length))

def tooLarge : String := "Risposta upstream troppo grande"

/-- The chunks that are kept so far, with their bytes in total. -/
structure KeptChunks where
  chunks : List (List UInt8)
  total : Nat

def readChunk (limit : Int) (kept : KeptChunks) (chunk : List UInt8) : Except String KeptChunks :=
  if chunk = [] then .ok kept
  else if (kept.total + chunk.length : Nat) > limit then .error tooLarge
  else .ok ⟨kept.chunks ++ [chunk], kept.total + chunk.length⟩

def readStreamedBytes (limit : Int) (chunks : List (List UInt8)) : Except String (List UInt8) := do
  let kept ← chunks.foldlM (readChunk limit) ⟨[], 0⟩
  return kept.chunks.flatten

def ensureSize (raw : List UInt8) (limit : Int) : Except String (List UInt8) :=
  if raw.length > limit then .error tooLarge else .ok raw

def readBoundedResponseBytes (response : UpstreamResponse) (maxBytes : Int)
    (requireSuccess : Bool)
    : Except String (List UInt8) := do
  let limit := max 1 maxBytes
  if requireSuccess then
    response.statusError.elim (pure ()) throw
  let declared ← declaredLength readInt? response
  if declared.any (limit < ·) then
    throw tooLarge
  match response.chunks with
  | some chunks => readStreamedBytes limit chunks
  | none => ensureSize response.content limit

end Bytes

section Shape

/-- The values right under a value, in the order in which they are pushed. -/
def children : Json → List Json
  | .list _ values => List.ofFn values
  | .object keys _ values => keys.map .text ++ List.ofFn values
  | _ => []

/-- What is refused at a single value. -/
def shapeError? (maxDepth maxNodes maxStringLength : Int) (value : Json) (depth : Nat)
    : Option String :=
  if depth > maxDepth then some "Risposta JSON upstream troppo profonda"
  else
    match value with
    | .text value =>
        if value.length > maxStringLength then some "Campo JSON upstream troppo grande" else none
    | .object keys _ _ =>
        if keys.length > maxNodes then some "Oggetto JSON upstream troppo grande" else none
    | .list length _ =>
        if length > maxNodes then some "Array JSON upstream troppo grande" else none
    | _ => none

/-- Visit the values on the stack, the top first; `visitsLeft` more ones are allowed. -/
def visitStack (maxDepth maxNodes maxStringLength : Int)
    : (visitsLeft : Nat) → (stack : List (Json × Nat)) → Except String Unit
  | _, [] => .ok ()
  | 0, _ :: _ => .error "Risposta JSON upstream troppo complessa"
  | visitsLeft + 1, (value, depth) :: stack =>
      match shapeError? maxDepth maxNodes maxStringLength value depth with
      | some error => .error error
      | none =>
          visitStack maxDepth maxNodes maxStringLength visitsLeft
            ((children value).reverse.map (·, depth + 1) ++ stack)

def validateJsonShape (payload : Json) (maxDepth maxNodes maxStringLength : Int)
    : Except String Unit :=
  visitStack maxDepth maxNodes maxStringLength maxNodes.toNat [(payload, 0)]

end Shape

/-- The values and keys of a document. -/
def nodeCount : Json → Nat
  | .list _ values => 1 + (List.ofFn (fun index => nodeCount (values index))).sum
  | .object keys _ values =>
      1 + (keys.length + (List.ofFn (fun index => nodeCount (values index))).sum)
  | _ => 1

/-- The most lists and dictionaries around one of the values. -/
def nesting : Json → Nat
  | .list _ values => (List.ofFn (fun index => nesting (values index) + 1)).foldr max 0
  | .object _ _ values => (List.ofFn (fun index => nesting (values index) + 1)).foldr max 0
  | _ => 0

/-- All texts and keys are short enough. -/
def TextsFit (maxStringLength : Int) : Json → Prop
  | .text value => value.length ≤ maxStringLength
  | .list _ values => ∀ index, TextsFit maxStringLength (values index)
  | .object keys _ values =>
      (∀ key ∈ keys, key.length ≤ maxStringLength)
      ∧ ∀ index, TextsFit maxStringLength (values index)
  | _ => True

structure WithinBudget (maxDepth maxNodes maxStringLength : Int) (payload : Json) : Prop where
  nodes : nodeCount payload ≤ maxNodes
  depth : nesting payload ≤ maxDepth
  texts : TextsFit maxStringLength payload

section Documents

variable {maxDepth maxNodes maxStringLength : Int} {payload : Json}

theorem nodeCount_eq (value : Json)
    : nodeCount value = 1 + ((children value).map nodeCount).sum := by
  cases value with
  | list length values => simp [nodeCount, children, List.map_ofFn, Function.comp_def]
  | object keys unique values =>
      have single (keys : List String) : (keys.map (nodeCount ∘ Json.text)).sum = keys.length := by
        induction keys with
        | nil => rfl
        | cons key rest ih => simp [ih, nodeCount, Nat.add_comm]
      simp [nodeCount, children, List.map_ofFn, Function.comp_def] at single ⊢
  | _ => rfl

theorem nodeCount_pos (value : Json) : 1 ≤ nodeCount value := by
  rw [nodeCount_eq]
  exact Nat.le_add_right 1 _

theorem children_induction {holds : Json → Prop}
    (step : ∀ value, (∀ child ∈ children value, holds child) → holds value)
    : ∀ value, holds value := by
  have leaf {value : Json} (bare : children value = []) : holds value := by
    refine step value (fun child member => ?_)
    rw [bare] at member
    cases member
  intro value
  induction value with
  | list length values ih =>
      refine step _ (fun child member => ?_)
      rcases List.mem_ofFn.mp member with ⟨index, rfl⟩
      exact ih index
  | object keys unique values ih =>
      refine step _ (fun child member => ?_)
      rcases List.mem_append.mp member with named | inner
      · rcases List.mem_map.mp named with ⟨key, -, rfl⟩
        exact leaf rfl
      · rcases List.mem_ofFn.mp inner with ⟨index, rfl⟩
        exact ih index
  | null | bool | int | float | text => exact leaf rfl

theorem forall_children_list {length : Nat} {values : Fin length → Json} {holds : Json → Prop}
    : (∀ child ∈ children (.list length values), holds child)
      ↔ ∀ index, holds (values index) := by
  unfold children
  exact List.forall_mem_ofFn_iff

theorem forall_children_object {keys : List String} {unique : keys.Nodup}
    {values : Fin keys.length → Json} {holds : Json → Prop}
    : (∀ child ∈ children (.object keys unique values), holds child)
      ↔ (∀ key ∈ keys, holds (.text key)) ∧ ∀ index, holds (values index) := by
  unfold children
  rw [List.forall_mem_append, List.forall_mem_ofFn_iff, List.forall_mem_map]

theorem foldr_max_le_iff {depths : List Nat} {bound : Nat}
    : depths.foldr max 0 ≤ bound ↔ ∀ depth ∈ depths, depth ≤ bound := by
  induction depths with
  | nil => simp
  | cons first rest ih => simp [ih]

theorem nesting_le_children_iff (value : Json) (bound : Nat)
    : nesting value ≤ bound ↔ ∀ child ∈ children value, nesting child + 1 ≤ bound := by
  cases value with
  | list length values =>
      rw [forall_children_list, nesting, foldr_max_le_iff]
      exact List.forall_mem_ofFn_iff
  | object keys unique values =>
      rw [forall_children_object, nesting, foldr_max_le_iff]
      refine List.forall_mem_ofFn_iff.trans ?_
      have named
          : (∀ index, nesting (values index) + 1 ≤ bound)
            → ∀ key ∈ keys, nesting (.text key) + 1 ≤ bound := by
        intro inner key member
        rcases List.get_of_mem member with ⟨index, -⟩
        have positive : 1 ≤ nesting (values index) + 1 := Nat.le_add_left 1 _
        exact positive.trans (inner index)
      exact (and_iff_right_of_imp named).symm
  | null | bool | int | float | text => simp [nesting, children]

theorem nesting_le_iff (value : Json) (bound : Nat)
    : nesting value ≤ bound
      ↔ ∀ levels target, Below children value levels target → levels ≤ bound := by
  induction value using children_induction generalizing bound with
  | step value ih =>
      rw [nesting_le_children_iff, forall_below_iff, and_iff_right (Nat.zero_le bound)]
      refine forall₂_congr (fun child member => ?_)
      cases bound with
      | zero =>
          constructor
          · intro impossible
            exact absurd impossible (Nat.not_succ_le_zero _)
          · intro impossible
            exact absurd (impossible 0 child (.self child)) (Nat.not_succ_le_zero _)
      | succ bound => simpa only [Nat.add_le_add_iff_right] using ih child member bound

/-- A text is short enough; other values are no texts. -/
def OwnTextFits (maxStringLength : Int) : Json → Prop
  | .text value => value.length ≤ maxStringLength
  | _ => True

theorem textsFit_iff (value : Json)
    : TextsFit maxStringLength value
      ↔ ∀ levels target,
          Below children value levels target → OwnTextFits maxStringLength target := by
  induction value using children_induction with
  | step value ih =>
      rw [@forall_below_iff _ _ _ (fun _ target => OwnTextFits maxStringLength target)]
      rw [← forall₂_congr ih]
      cases value with
      | list length values =>
          rw [forall_children_list]
          simp [TextsFit, OwnTextFits]
      | object keys unique values =>
          rw [forall_children_object]
          simp [TextsFit, OwnTextFits]
      | null | bool | int | float | text => simp [TextsFit, OwnTextFits, children]

theorem fits_of_passes {value : Json} {depth : Nat}
    (passes : shapeError? maxDepth maxNodes maxStringLength value depth = none)
    : depth ≤ maxDepth ∧ OwnTextFits maxStringLength value := by
  unfold shapeError? at passes
  split at passes
  · cases passes
  · next shallow =>
      refine ⟨Int.not_lt.mp shallow, ?_⟩
      cases value with
      | text value =>
          dsimp only at passes
          split at passes
          · cases passes
          · next short => exact Int.not_lt.mp short
      | null | bool | int | float | list | object => trivial

theorem keys_le_nodeCount {keys : List String} {unique : keys.Nodup}
    {values : Fin keys.length → Json}
    : keys.length ≤ nodeCount (.object keys unique values) := by
  unfold nodeCount
  omega

theorem length_le_nodeCount {length : Nat} {values : Fin length → Json}
    : length ≤ nodeCount (.list length values) := by
  have each := List.length_le_sum_of_one_le (List.ofFn (fun index => nodeCount (values index)))
    (List.forall_mem_ofFn_iff.mpr (fun index => nodeCount_pos (values index)))
  rw [List.length_ofFn] at each
  unfold nodeCount
  omega

theorem passes_of_fits {value : Json} {depth : Nat} (shallow : depth ≤ maxDepth)
    (text : OwnTextFits maxStringLength value) (few : nodeCount value ≤ maxNodes)
    : shapeError? maxDepth maxNodes maxStringLength value depth = none := by
  unfold shapeError?
  rw [if_neg (Int.not_lt.mpr shallow)]
  cases value with
  | text value => exact if_neg (Int.not_lt.mpr text)
  | list length values =>
      have small := @length_le_nodeCount length values
      exact if_neg (by omega)
  | object keys unique values =>
      have small := @keys_le_nodeCount keys unique values
      exact if_neg (by omega)
  | null | bool | int | float => rfl

/-- A value of a document is checked at its depth. -/
def Passes (maxDepth maxNodes maxStringLength : Int) (value : Json) (depth : Nat) : Prop :=
  shapeError? maxDepth maxNodes maxStringLength value depth = none

theorem allPass_iff_withinBudget
    : (AllPass children (Passes maxDepth maxNodes maxStringLength) [(payload, 0)]
          ∧ (([(payload, 0)] : List (Json × Nat)).map (fun entry => nodeCount entry.1)).sum
            ≤ maxNodes.toNat)
      ↔ WithinBudget maxDepth maxNodes maxStringLength payload := by
  have positive := nodeCount_pos payload
  have total
      : (([(payload, 0)] : List (Json × Nat)).map (fun entry => nodeCount entry.1)).sum
        = nodeCount payload :=
    List.sum_singleton
  rw [total]
  constructor
  · rintro ⟨passes, few⟩
    have fits (levels : Nat) (target : Json) (below : Below children payload levels target)
        : levels ≤ maxDepth ∧ OwnTextFits maxStringLength target := by
      have passed := passes _ List.mem_cons_self levels target below
      rw [Nat.zero_add] at passed
      exact fits_of_passes passed
    refine ⟨by omega, ?_, (textsFit_iff payload).mpr (fun levels target below =>
      (fits levels target below).2)⟩
    have root := (fits 0 payload (.self payload)).1
    have shallow : nesting payload ≤ maxDepth.toNat := by
      refine (nesting_le_iff payload _).mpr (fun levels target below => ?_)
      have bounded := (fits levels target below).1
      omega
    omega
  · intro within
    have few := within.nodes
    refine ⟨?_, by omega⟩
    intro entry member levels target below
    rw [List.mem_singleton.mp member] at below ⊢
    have size : nodeCount target ≤ nodeCount payload := below.size_le nodeCount_eq
    have levelsLe := (nesting_le_iff payload _).mp (Nat.le_refl _) levels target below
    have depth := within.depth
    refine passes_of_fits ?_ ((textsFit_iff payload).mp within.texts levels target below) ?_
    · omega
    · omega

/-- The visits of the stack are visits in one of the orders, by induction on their number. -/
theorem visits_visitStack (visitsLeft : Nat) (stack : List (Json × Nat))
    : Visits children (Passes maxDepth maxNodes maxStringLength) visitsLeft stack
        (visitStack maxDepth maxNodes maxStringLength visitsLeft stack).isOk := by
  induction visitsLeft generalizing stack with
  | zero =>
      cases stack with
      | nil => exact .done 0
      | cons entry stack => exact .exhausted (List.cons_ne_nil _ _)
  | succ visitsLeft ih =>
      cases stack with
      | nil => exact .done _
      | cons entry stack =>
          rcases entry with ⟨value, depth⟩
          unfold visitStack
          cases checked : shapeError? maxDepth maxNodes maxStringLength value depth with
          | some error =>
              refine .refused (List.Perm.refl _) (fun passes => ?_)
              cases checked.symm.trans passes
          | none =>
              refine .visit (List.Perm.refl _) checked ((ih _).perm ?_)
              exact ((List.reverse_perm _).map _).append_right stack

/-- In whatever order the values are visited, a document is accepted if and only if it is within
the budget.
-/
theorem visits_accepted_iff {accepted : Bool}
    (visits
      : Visits children (Passes maxDepth maxNodes maxStringLength) maxNodes.toNat [(payload, 0)]
          accepted)
    : accepted = true ↔ WithinBudget maxDepth maxNodes maxStringLength payload :=
  (visits.accepted_iff nodeCount_eq).trans allPass_iff_withinBudget

end Documents

section Chunks

variable {limit : Int} {kept : KeptChunks}

structure KeptSound (limit : Int) (kept : KeptChunks) (read : List UInt8) : Prop where
  bytes : kept.chunks.flatten = read
  total : kept.total = read.length
  bounded : read.length ≤ limit

theorem KeptSound.readChunk {read chunk : List UInt8} {after : KeptChunks}
    (sound : KeptSound limit kept read) (here : readChunk limit kept chunk = .ok after)
    : KeptSound limit after (read ++ chunk) := by
  unfold Upstream.readChunk at here
  split at here
  · next bare =>
      cases here
      rw [bare, List.append_nil]
      exact sound
  · split at here
    · cases here
    · next small =>
        cases here
        have total := sound.total
        refine ⟨?_, ?_, ?_⟩
        · rw [List.flatten_append, sound.bytes, List.flatten_singleton]
        · rw [List.length_append, total]
        · rw [List.length_append, ← total]
          exact Int.not_lt.mp small

/-- The chunks are read to their end if and only if all of them are within the limit, by
induction on the chunks.
-/
theorem foldlM_readChunk {read : List UInt8} (sound : KeptSound limit kept read)
    (chunks : List (List UInt8))
    : if (read ++ chunks.flatten).length > limit then
        chunks.foldlM (readChunk limit) kept = .error tooLarge
      else
        ∃ after,
          chunks.foldlM (readChunk limit) kept = .ok after
          ∧ KeptSound limit after (read ++ chunks.flatten) := by
  induction chunks generalizing kept read with
  | nil =>
      rw [List.flatten_nil, List.append_nil, if_neg (Int.not_lt.mpr sound.bounded)]
      exact ⟨kept, rfl, sound⟩
  | cons chunk rest ih =>
      rw [List.flatten_cons, ← List.append_assoc, List.foldlM_cons]
      cases here : readChunk limit kept chunk with
      | ok after => exact ih (sound.readChunk here)
      | error message =>
          unfold readChunk at here
          split at here
          · cases here
          · split at here
            · next large =>
                cases here
                rw [sound.total] at large
                rw [if_pos]
                · rfl
                · rw [List.length_append, List.length_append]
                  omega
            · cases here

theorem readStreamedBytes_eq (limit : Int) (bound : 0 ≤ limit) (chunks : List (List UInt8))
    : readStreamedBytes limit chunks = ensureSize chunks.flatten limit := by
  have start : KeptSound limit ⟨[], 0⟩ [] := ⟨rfl, rfl, bound⟩
  have read := foldlM_readChunk start chunks
  unfold readStreamedBytes ensureSize
  rw [List.nil_append] at read
  split at read
  · next large =>
      rw [read, if_pos large]
      rfl
  · next small =>
      rcases read with ⟨after, done, sound⟩
      rw [done, if_neg small]
      exact congrArg Except.ok sound.bytes

theorem readBoundedResponseBytes_stream (readInt? : String → Option Int)
    (response : UpstreamResponse) (maxBytes : Int) (requireSuccess : Bool)
    (chunks : List (List UInt8))
    : readBoundedResponseBytes readInt? { response with chunks := some chunks } maxBytes
        requireSuccess
      = readBoundedResponseBytes readInt?
          { response with chunks := none, content := chunks.flatten } maxBytes
          requireSuccess := by
  have bound : 0 ≤ max 1 maxBytes := le_max_of_le_left (by decide)
  unfold readBoundedResponseBytes declaredLength
  dsimp only
  rw [readStreamedBytes_eq _ bound]

theorem length_of_ensureSize {raw read : List UInt8} (sized : ensureSize raw limit = .ok read)
    : read.length ≤ limit := by
  unfold ensureSize at sized
  split at sized
  · cases sized
  · next small =>
      cases sized
      exact Int.not_lt.mp small

theorem length_readBoundedResponseBytes {readInt? : String → Option Int}
    {response : UpstreamResponse} {maxBytes : Int} {requireSuccess : Bool} {raw : List UInt8}
    (read : readBoundedResponseBytes readInt? response maxBytes requireSuccess = .ok raw)
    : raw.length ≤ max 1 maxBytes := by
  have bound : 0 ≤ max 1 maxBytes := le_max_of_le_left (by decide)
  have body
      : (match response.chunks with
          | some chunks => readStreamedBytes (max 1 maxBytes) chunks
          | none => ensureSize response.content (max 1 maxBytes)) = .ok raw := by
    unfold readBoundedResponseBytes at read
    dsimp only at read
    have declaredRead
        : ∃ declared : Option Int,
            declaredLength readInt? response = .ok declared
            ∧ (if declared.any (max 1 maxBytes < ·) then do
                throw tooLarge
                match response.chunks with
                | some chunks => readStreamedBytes (max 1 maxBytes) chunks
                | none => ensureSize response.content (max 1 maxBytes)
              else
                match response.chunks with
                | some chunks => readStreamedBytes (max 1 maxBytes) chunks
                | none => ensureSize response.content (max 1 maxBytes)) = Except.ok raw := by
      split at read
      · rcases bind_eq_ok_iff.mp read with ⟨-, -, rest⟩
        exact bind_eq_ok_iff.mp rest
      · exact bind_eq_ok_iff.mp read
    rcases declaredRead with ⟨declared, -, rest⟩
    split at rest
    · cases rest
    · exact rest
  split at body
  · rw [readStreamedBytes_eq _ bound] at body
    exact length_of_ensureSize body
  · exact length_of_ensureSize body

theorem length_kept {done : List (List UInt8)} (bound : 0 ≤ limit)
    (read : done.foldlM (readChunk limit) ⟨[], 0⟩ = .ok kept)
    : kept.chunks.flatten.length ≤ limit := by
  have start : KeptSound limit ⟨[], 0⟩ [] := ⟨rfl, rfl, bound⟩
  have outcome := foldlM_readChunk start done
  split at outcome
  · rw [read] at outcome
    cases outcome
  · rcases outcome with ⟨after, reached, sound⟩
    rw [read] at reached
    cases reached
    rw [sound.bytes]
    exact sound.bounded

end Chunks

/-- The budget of a document is what its size, its depth and its texts make, in whatever order
its values are visited; and the bytes of a body, not its chunks, decide what is read of it, of
which no more is kept than the limit, which is one byte at least.
-/
theorem upstream_limits (readInt? : String → Option Int)
    : (∀ payload maxDepth maxNodes maxStringLength,
        (validateJsonShape payload maxDepth maxNodes maxStringLength = .ok ()
          ↔ WithinBudget maxDepth maxNodes maxStringLength payload)
        ∧ ∀ accepted,
            Visits children (Passes maxDepth maxNodes maxStringLength) maxNodes.toNat
              [(payload, 0)] accepted
            → (accepted = true ↔ WithinBudget maxDepth maxNodes maxStringLength payload))
      ∧ (∀ (response : UpstreamResponse) maxBytes requireSuccess chunks other,
          List.flatten chunks = List.flatten other
          → readBoundedResponseBytes readInt? { response with chunks := some chunks } maxBytes
              requireSuccess
            = readBoundedResponseBytes readInt? { response with chunks := some other } maxBytes
                requireSuccess)
      ∧ (∀ maxBytes done kept,
          List.foldlM (readChunk (max 1 maxBytes)) ⟨[], 0⟩ done = .ok kept
          → kept.chunks.flatten.length ≤ max 1 maxBytes)
      ∧ (∀ response maxBytes requireSuccess raw,
          readBoundedResponseBytes readInt? response maxBytes requireSuccess = .ok raw
          → raw.length ≤ max 1 maxBytes) := by
  refine ⟨fun payload maxDepth maxNodes maxStringLength => ⟨?_, ?_⟩, ?_, ?_, ?_⟩
  · have visits :=
      @visits_visitStack maxDepth maxNodes maxStringLength maxNodes.toNat [(payload, 0)]
    rw [← visits_accepted_iff visits]
    unfold validateJsonShape
    cases visitStack maxDepth maxNodes maxStringLength maxNodes.toNat [(payload, 0)] with
    | ok done => exact iff_of_true rfl rfl
    | error message => exact iff_of_false (fun same => by cases same) Bool.noConfusion
  · exact fun accepted visits => visits_accepted_iff visits
  · intro response maxBytes requireSuccess chunks other same
    rw [readBoundedResponseBytes_stream, readBoundedResponseBytes_stream, same]
  · intro maxBytes done kept read
    exact length_kept (le_max_of_le_left (by decide)) read
  · intro response maxBytes requireSuccess raw read
    exact length_readBoundedResponseBytes read

/-- With a limit of no bytes one byte is kept. -/
theorem zeroBytes_keeps_one
    : ∃ raw,
        readBoundedResponseBytes String.toInt? ⟨none, none, some [[65]], []⟩ 0 true = .ok raw
        ∧ ¬ raw.length ≤ 0 :=
  ⟨[65], rfl, by decide⟩

end OctoHubs.Upstream
