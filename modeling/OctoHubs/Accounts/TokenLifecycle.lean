import OctoHubs.Accounts.ApiTokens

/-! What holds of the tokens of the accounts over whole runs: how many are live, which rows are
deleted, and that a token that has ended is never verified again.
-/

namespace OctoHubs.Accounts

open OctoHubs.Library

namespace TokenStore

section Rows

variable {tokens : List ApiToken} {token written : ApiToken} {userId : AccountId}
  {now later : Timestamp}

theorem isLive_of_later (after : now ≤ later) (live : token.isLive later = true)
    : token.isLive now = true := by
  unfold ApiToken.isLive ApiToken.isExpired at live ⊢
  rw [Bool.and_eq_true, Bool.not_eq_true'] at live ⊢
  refine ⟨live.1, ?_⟩
  cases expiry : token.expiresAt with
  | none => rfl
  | some expires =>
      have unexpired := live.2
      rw [expiry] at unexpired
      simp only [Option.any_some, decide_eq_false_iff_not, not_le] at unexpired ⊢
      exact after.trans_lt unexpired

theorem isLive_revoked (token : ApiToken) (written now : Timestamp)
    : (ApiToken.revoked token written).isLive now = false :=
  rfl

theorem activeApiTokenCount_later (after : now ≤ later)
    : activeApiTokenCount tokens userId later ≤ activeApiTokenCount tokens userId now := by
  refine List.countP_mono_left (fun token _ counted => ?_)
  rw [Bool.and_eq_true] at counted ⊢
  exact ⟨counted.1, isLive_of_later after counted.2⟩

theorem prune_sublist (tokens : List ApiToken) (userId : AccountId) (now : Timestamp)
    : (pruneApiTokenHistory tokens userId now).Sublist tokens :=
  List.filter_sublist

theorem mem_prune_of_live (unique : (tokens.map (·.id)).Nodup) (member : token ∈ tokens)
    (live : token.isLive now = true) (userId : AccountId)
    : token ∈ pruneApiTokenHistory tokens userId now := by
  unfold pruneApiTokenHistory
  dsimp only
  rw [List.mem_filter, decide_eq_true_eq]
  refine ⟨member, fun deleted => ?_⟩
  rcases List.mem_map.mp deleted with ⟨stale, dropped, same⟩
  have listed : stale ∈ staleTokens tokens userId now := List.mem_of_mem_drop dropped
  unfold staleTokens at listed
  rw [(List.perm_insertionSort _ _).mem_iff, List.mem_filter] at listed
  have itself : stale = token := List.inj_on_of_nodup_map unique listed.1 member same
  unfold ApiToken.isLive at live
  rw [itself] at listed
  simp_all

theorem written_mem_write (member : token ∈ tokens) (same : token.id = written.id)
    : written ∈ writeToken tokens written :=
  List.mem_map.mpr ⟨token, member, if_pos same⟩

theorem mem_write_of_ne (member : token ∈ tokens) (apart : token.id ≠ written.id)
    : token ∈ writeToken tokens written :=
  List.mem_map.mpr ⟨token, member, if_neg apart⟩

theorem map_id_write : (writeToken tokens written).map (·.id) = tokens.map (·.id) := by
  unfold writeToken
  rw [List.map_map]
  refine List.map_congr_left (fun other _ => ?_)
  rw [Function.comp_apply]
  split
  · next same => exact same.symm
  · rfl

theorem mem_write {row : ApiToken} (member : row ∈ writeToken tokens written)
    : row = written ∨ row ∈ tokens ∧ row.id ≠ written.id := by
  rcases List.mem_map.mp member with ⟨other, otherMember, same⟩
  split at same
  · exact .inl same.symm
  · next apart =>
      subst same
      exact .inr ⟨otherMember, apart⟩

theorem write_of_not_mem (absent : written.id ∉ tokens.map (·.id))
    : writeToken tokens written = tokens := by
  unfold writeToken
  have same
      : tokens.map (fun token => if token.id = written.id then written else token)
        = tokens.map id := by
    refine List.map_congr_left (fun other member => ?_)
    rw [if_neg]
    · rfl
    · intro same
      exact absent (same ▸ List.mem_map_of_mem member)
  rw [same, List.map_id]

/-- A row is written in the place of the one with its number, by induction on the rows. -/
theorem countP_write (unique : (tokens.map (·.id)).Nodup) (member : token ∈ tokens)
    (same : written.id = token.id) (counts : ApiToken → Bool)
    : (writeToken tokens written).countP counts + (if counts token then 1 else 0)
      = tokens.countP counts + (if counts written then 1 else 0) := by
  induction tokens with
  | nil => cases member
  | cons first rest ih =>
      rw [List.map_cons, List.nodup_cons] at unique
      have shape
          : writeToken (first :: rest) written
            = (if first.id = written.id then written else first) :: writeToken rest written :=
        rfl
      rw [shape, List.countP_cons, List.countP_cons]
      rcases List.mem_cons.mp member with here | there
      · subst here
        rw [if_pos same.symm, write_of_not_mem (same.symm ▸ unique.1)]
        omega
      · have apart : first.id ≠ written.id := by
          intro equal
          rw [same] at equal
          exact unique.1 (equal ▸ List.mem_map_of_mem there)
        rw [if_neg apart]
        have more := ih unique.2 there
        omega

theorem map_hash_write (unique : (tokens.map (·.id)).Nodup) (member : token ∈ tokens)
    (same : written.id = token.id) (hash : written.tokenHash = token.tokenHash)
    : (writeToken tokens written).map (·.tokenHash) = tokens.map (·.tokenHash) := by
  unfold writeToken
  rw [List.map_map]
  refine List.map_congr_left (fun other otherMember => ?_)
  rw [Function.comp_apply]
  split
  · next equal =>
      have itself : other = token :=
        List.inj_on_of_nodup_map unique otherMember member (equal.trans same)
      rw [hash, itself]
  · rfl

end Rows

variable {rules} {store next : TokenStore}

/-- What a step does to the rows of the tokens, and which tokens it may end. -/
inductive TokenChange (rules : TokenRules) (store next : TokenStore) (ended : ApiToken → Prop)
    : Prop
  | deleted (rows : next.tokens.Sublist store.tokens)
    (ends : ∀ row ∈ store.tokens, row ∉ next.tokens → ended row)
    (ids : next.nextId = store.nextId) (issued : next.issued = store.issued)
  | used {token written : ApiToken} (member : token ∈ store.tokens) (id : written.id = token.id)
    (hash : written.tokenHash = token.tokenHash) (user : written.userId = token.userId)
    (live : ∀ time, written.isLive time = token.isLive time)
    (rows : next.tokens = writeToken store.tokens written) (ids : next.nextId = store.nextId)
    (issued : next.issued = store.issued)
  | revoked {token : ApiToken} {userId : AccountId} {written pruned : Timestamp}
    (member : token ∈ store.tokens) (ends : ended token) (before : pruned ≤ next.clock)
    (rows
      : next.tokens
        = pruneApiTokenHistory (writeToken store.tokens (ApiToken.revoked token written)) userId
            pruned)
    (ids : next.nextId = store.nextId) (issued : next.issued = store.issued)
  | created {userId : AccountId} {name plaintext : String} {scopes : List String}
    {expiresAt : Option Timestamp} {now created : Timestamp} (after : store.clock ≤ now)
    (before : now ≤ next.clock)
    (few : activeApiTokenCount store.tokens userId now < apiTokenMaxActivePerAccount)
    (fresh : plaintext ∉ store.issued)
    (rows
      : next.tokens
        = pruneApiTokenHistory
            (store.tokens
              ++ [newApiToken rules store userId name scopes expiresAt plaintext created])
            userId now)
    (ids : next.nextId = store.nextId + 1) (issued : next.issued = plaintext :: store.issued)
  | rotated {token : ApiToken} {userId : AccountId} {name plaintext : String}
    {scopes : List String} {written pruned created : Timestamp} (member : token ∈ store.tokens)
    (owner : token.userId = userId) (active : token.isActive = true) (ends : ended token)
    (before : pruned ≤ next.clock) (fresh : plaintext ∉ store.issued)
    (rows
      : next.tokens
        = pruneApiTokenHistory
            (writeToken store.tokens (ApiToken.revoked token written)
              ++ [newApiToken rules store userId name scopes token.expiresAt plaintext created])
            userId pruned)
    (ids : next.nextId = store.nextId + 1) (issued : next.issued = plaintext :: store.issued)

theorem TokenChange.unchanged {ended : ApiToken → Prop} (rows : next.tokens = store.tokens)
    (ids : next.nextId = store.nextId) (issued : next.issued = store.issued)
    : TokenChange rules store next ended := by
  refine .deleted ?_ (fun row member gone => ?_) ids issued
  · rw [rows]
  · rw [rows] at gone
    exact absurd member gone

theorem findToken_eq_some {userId : AccountId} {tokenId : Nat} {token : ApiToken}
    (found : store.findToken userId tokenId = some token)
    : token ∈ store.tokens ∧ token.id = tokenId ∧ token.userId = userId := by
  have named := List.find?_some found
  rw [Bool.and_eq_true, decide_eq_true_eq, decide_eq_true_eq] at named
  exact ⟨List.mem_of_find?_eq_some found, named⟩

theorem create_change {userId : AccountId} {request : CreateRequest} {plaintext : String}
    {asked now created : Timestamp} (after : store.clock ≤ now) (before : now ≤ created)
    (fresh : plaintext ∉ store.issued)
    {ended : ApiToken → Prop}
    : TokenChange rules store
          (createApiToken rules store userId request plaintext asked now created).2 ended
      ∧ (createApiToken rules store userId request plaintext asked now created).2.clock
        = created := by
  unfold createApiToken
  dsimp only
  split
  · next name expiresAt _ _ =>
      split
      · exact ⟨.unchanged rfl rfl rfl, rfl⟩
      · next accepted =>
          simp only [not_or, not_le] at accepted
          exact ⟨.created after before accepted.2.2 fresh rfl rfl rfl, rfl⟩
  · exact ⟨.unchanged rfl rfl rfl, rfl⟩

theorem revoke_spec {userId : AccountId} {tokenId : Nat} {moments : Moments}
    : ((revokeApiToken store userId tokenId moments).1 = false
          ∧ (revokeApiToken store userId tokenId moments).2
            = { store with clock := moments.pruned })
      ∨ ∃ token,
          store.findToken userId tokenId = some token
          ∧ (revokeApiToken store userId tokenId moments).2
            = { store with
                clock := moments.pruned
                tokens :=
                  pruneApiTokenHistory
                    (writeToken store.tokens (ApiToken.revoked token moments.written)) userId
                    moments.pruned } := by
  unfold revokeApiToken
  dsimp only
  split
  · exact .inl ⟨rfl, rfl⟩
  · split
    · exact .inl ⟨rfl, rfl⟩
    · next token found =>
        split
        · exact .inl ⟨rfl, rfl⟩
        · exact .inr ⟨token, found, rfl⟩

theorem rotate_spec {userId : AccountId} {tokenId : Nat} {plaintext : String} {moments : Moments}
    {created : Timestamp}
    : ((rotateApiToken rules store userId tokenId plaintext moments created).1 = none
          ∧ (rotateApiToken rules store userId tokenId plaintext moments created).2
            = { store with clock := created })
      ∨ ∃ token,
          store.findToken userId tokenId = some token
          ∧ token.isActive = true
          ∧ (rotateApiToken rules store userId tokenId plaintext moments created).2
            = { store with
                clock := created
                tokens :=
                  pruneApiTokenHistory
                    (writeToken store.tokens (ApiToken.revoked token moments.written)
                      ++ [newApiToken rules store userId token.name (token.normalizedScopes rules)
                            token.expiresAt plaintext created])
                    userId moments.pruned
                nextId := store.nextId + 1
                issued := plaintext :: store.issued } := by
  unfold rotateApiToken
  dsimp only
  split
  · exact .inl ⟨rfl, rfl⟩
  · split
    · exact .inl ⟨rfl, rfl⟩
    · next token found =>
        split
        · exact .inl ⟨rfl, rfl⟩
        · next accepted =>
            simp only [Bool.or_eq_true, Bool.not_eq_true', not_or, Bool.not_eq_false] at accepted
            exact .inr ⟨token, found, accepted.1, rfl⟩

theorem verify_spec {presented : String} {checked used : Timestamp}
    : ((verifyApiToken rules store presented checked used).1 = none
          ∧ (verifyApiToken rules store presented checked used).2 = { store with clock := used })
      ∨ ∃ token written user,
          store.tokens.find? (·.tokenHash = rules.hash (strip presented)) = some token
          ∧ token.isLive checked = true
          ∧ store.users.get? token.userId = some user
          ∧ user.isActive = true
          ∧ (written = token ∨ written = { token with lastUsedAt := some used })
          ∧ (verifyApiToken rules store presented checked used).1
            = some ⟨user, written, written.normalizedScopes rules⟩
          ∧ (verifyApiToken rules store presented checked used).2
            = { store with clock := used, tokens := writeToken store.tokens written } := by
  unfold verifyApiToken
  dsimp only
  split
  · exact .inl ⟨rfl, rfl⟩
  · split
    · exact .inl ⟨rfl, rfl⟩
    · next token found =>
        split
        · exact .inl ⟨rfl, rfl⟩
        · next accepted =>
            have live : token.isLive checked = true := by
              unfold ApiToken.isLive
              simpa using accepted
            split
            · exact .inl ⟨rfl, rfl⟩
            · next user known =>
                split
                · exact .inl ⟨rfl, rfl⟩
                · next active =>
                    refine .inr ⟨token, _, user, found, live, known, by simpa using active, ?_,
                      rfl, rfl⟩
                    split
                    · exact .inr rfl
                    · exact .inl rfl

def Ends : TokenEvent → ApiToken → Prop
  | .revoke userId tokenId _, token => token.id = tokenId ∧ token.userId = userId
  | .rotate userId tokenId _ _ _, token => token.id = tokenId ∧ token.userId = userId
  | .deleteTokens userId, token => token.userId = userId
  | _, _ => False

theorem step_change {event : TokenEvent} (admitted : Admits store event)
    (taken : step rules store event = some next)
    : TokenChange rules store next (Ends event) ∧ store.clock ≤ next.clock := by
  cases event with
  | create userId request plaintext asked now created =>
      cases taken
      rcases admitted with ⟨askedAfter, nowAfter, createdAfter, fresh⟩
      rcases @create_change rules store userId request plaintext asked now created
        (askedAfter.trans nowAfter) createdAfter fresh _ with ⟨change, clock⟩
      refine ⟨change, ?_⟩
      rw [clock]
      exact (askedAfter.trans nowAfter).trans createdAfter
  | revoke userId tokenId moments =>
      cases taken
      have after := (admitted.1.trans admitted.2.1).trans admitted.2.2
      rcases @revoke_spec store userId tokenId moments with ⟨-, same⟩ | ⟨token, found, written⟩
      · rw [same]
        exact ⟨.unchanged rfl rfl rfl, after⟩
      · rw [written]
        rcases findToken_eq_some found with ⟨member, target⟩
        exact ⟨.revoked member target le_rfl rfl rfl rfl, after⟩
  | rotate userId tokenId plaintext moments created =>
      cases taken
      rcases admitted with ⟨times, createdAfter, fresh⟩
      have after := ((times.1.trans times.2.1).trans times.2.2).trans createdAfter
      rcases @rotate_spec rules store userId tokenId plaintext moments created with
        ⟨-, same⟩ | ⟨token, found, active, written⟩
      · rw [same]
        exact ⟨.unchanged rfl rfl rfl, after⟩
      · rw [written]
        rcases findToken_eq_some found with ⟨member, target⟩
        exact ⟨.rotated member target.2 active target createdAfter fresh rfl rfl rfl, after⟩
  | verify presented checked used =>
      cases taken
      have after := admitted.1.trans admitted.2
      rcases @verify_spec rules store presented checked used with
        ⟨-, same⟩ | ⟨token, written, user, found, live, known, active, shape, -, result⟩
      · rw [same]
        exact ⟨.unchanged rfl rfl rfl, after⟩
      · rw [result]
        have member := List.mem_of_find?_eq_some found
        refine ⟨?_, after⟩
        rcases shape with shape | shape
        · subst shape
          exact .used member rfl rfl rfl (fun _ => rfl) rfl rfl rfl
        · subst shape
          exact
            @TokenChange.used rules store _ _ token { token with lastUsedAt := some used }
              member rfl
              rfl rfl (fun _ => rfl) rfl rfl rfl
  | writeUser userId user =>
      cases taken
      exact ⟨.unchanged rfl rfl rfl, le_rfl⟩
  | deleteTokens userId =>
      cases taken
      refine ⟨.deleted List.filter_sublist (fun row member gone => ?_) rfl rfl, le_rfl⟩
      by_contra other
      exact gone (List.mem_filter.mpr ⟨member, decide_eq_true other⟩)
  | deleteUser userId =>
      cases taken
      exact ⟨.unchanged rfl rfl rfl, le_rfl⟩
  | wait later =>
      cases taken
      exact ⟨.unchanged rfl rfl rfl, admitted⟩

-- Whole runs

/-- Rows have their own numbers and digests, the digests are of tokens that were handed out, and
no account has more live tokens than it may have.
-/
structure SoundRows (rules : TokenRules) (rows : List ApiToken) (nextId : Nat)
    (issued : List String) (clock : Timestamp)
    : Prop where
  ids : (rows.map (·.id)).Nodup
  numbered : ∀ token ∈ rows, token.id < nextId
  hashes : (rows.map (·.tokenHash)).Nodup
  handedOut : ∀ token ∈ rows, ∃ plaintext ∈ issued, token.tokenHash = rules.hash plaintext
  quota : ∀ userId, activeApiTokenCount rows userId clock ≤ apiTokenMaxActivePerAccount

def Sound (rules : TokenRules) (store : TokenStore) : Prop :=
  SoundRows rules store.tokens store.nextId store.issued store.clock

theorem SoundRows.sublist {rows kept : List ApiToken} {nextId : Nat} {issued : List String}
    {clock : Timestamp} (sound : SoundRows rules rows nextId issued clock)
    (deleted : kept.Sublist rows)
    : SoundRows rules kept nextId issued clock where
  ids := sound.ids.sublist (deleted.map _)
  numbered token member := sound.numbered token (deleted.subset member)
  hashes := sound.hashes.sublist (deleted.map _)
  handedOut token member := sound.handedOut token (deleted.subset member)
  quota userId := deleted.countP_le.trans (sound.quota userId)

variable {rows : List ApiToken} {nextId : Nat} {issued : List String} {clock later : Timestamp}

theorem SoundRows.wait (sound : SoundRows rules rows nextId issued clock) (after : clock ≤ later)
    : SoundRows rules rows nextId issued later where
  ids := sound.ids
  numbered := sound.numbered
  hashes := sound.hashes
  handedOut := sound.handedOut
  quota userId := (activeApiTokenCount_later after).trans (sound.quota userId)

theorem SoundRows.write (sound : SoundRows rules rows nextId issued clock)
    {token written : ApiToken} (member : token ∈ rows) (id : written.id = token.id)
    (hash : written.tokenHash = token.tokenHash)
    (live
      : ∀ userId,
          (written.userId = userId && written.isLive clock) = true
          → (token.userId = userId && token.isLive clock) = true)
    : SoundRows rules (writeToken rows written) nextId issued clock where
  ids := by
    rw [map_id_write]
    exact sound.ids
  numbered row rowMember := by
    rcases mem_write rowMember with here | ⟨there, -⟩
    · rw [here, id]
      exact sound.numbered token member
    · exact sound.numbered row there
  hashes := by
    rw [map_hash_write sound.ids member id hash]
    exact sound.hashes
  handedOut row rowMember := by
    rcases mem_write rowMember with here | ⟨there, -⟩
    · rw [here, hash]
      exact sound.handedOut token member
    · exact sound.handedOut row there
  quota userId := by
    have counted :=
      countP_write sound.ids member id (fun token => token.userId = userId && token.isLive clock)
    have before := sound.quota userId
    unfold activeApiTokenCount at before ⊢
    by_cases counts : (written.userId = userId && written.isLive clock) = true
    · rw [if_pos counts, if_pos (live userId counts)] at counted
      omega
    · rw [if_neg counts] at counted
      omega

theorem SoundRows.revoke (sound : SoundRows rules rows nextId issued clock) {token : ApiToken}
    (member : token ∈ rows) (written : Timestamp)
    : SoundRows rules (writeToken rows (ApiToken.revoked token written)) nextId issued clock := by
  refine sound.write member rfl rfl (fun userId counts => ?_)
  rw [isLive_revoked, Bool.and_false] at counts
  cases counts

theorem SoundRows.ids_append (sound : SoundRows rules rows nextId issued clock)
    {token : ApiToken} (id : token.id = nextId)
    : ((rows ++ [token]).map (·.id)).Nodup := by
  rw [List.map_append, List.nodup_append]
  refine ⟨sound.ids, List.nodup_singleton _, fun number listed other own equal => ?_⟩
  rcases List.mem_map.mp listed with ⟨row, rowMember, rowId⟩
  have small := sound.numbered row rowMember
  have same : other = token.id := by simpa using own
  omega

theorem SoundRows.append (sound : SoundRows rules rows nextId issued clock)
    (injective : Function.Injective rules.hash) {plaintext : String} (fresh : plaintext ∉ issued)
    {token : ApiToken} (id : token.id = nextId) (hash : token.tokenHash = rules.hash plaintext)
    (room
      : ∀ userId,
          (token.userId = userId && token.isLive clock) = true
          → activeApiTokenCount rows userId clock < apiTokenMaxActivePerAccount)
    : SoundRows rules (rows ++ [token]) (nextId + 1) (plaintext :: issued) clock where
  ids := sound.ids_append id
  numbered row rowMember := by
    rcases List.mem_append.mp rowMember with old | new
    · exact (sound.numbered row old).trans (Nat.lt_succ_self _)
    · rw [List.mem_singleton.mp new, id]
      exact Nat.lt_succ_self _
  hashes := by
    rw [List.map_append, List.nodup_append]
    refine ⟨sound.hashes, List.nodup_singleton _, fun digest listed other own equal => ?_⟩
    rcases List.mem_map.mp listed with ⟨row, rowMember, rowHash⟩
    rcases sound.handedOut row rowMember with ⟨old, oldIssued, oldHash⟩
    have same : other = token.tokenHash := by simpa using own
    have digests : rules.hash old = rules.hash plaintext := by
      rw [← oldHash, rowHash, equal, same, hash]
    exact fresh (injective digests ▸ oldIssued)
  handedOut row rowMember := by
    rcases List.mem_append.mp rowMember with old | new
    · rcases sound.handedOut row old with ⟨known, knownIssued, same⟩
      exact ⟨known, List.mem_cons_of_mem _ knownIssued, same⟩
    · rw [List.mem_singleton.mp new]
      exact ⟨plaintext, List.mem_cons_self, hash⟩
  quota userId := by
    have before := sound.quota userId
    have more := room userId
    unfold activeApiTokenCount at before more ⊢
    rw [List.countP_append, List.countP_singleton]
    split
    · next counts => exact more counts
    · exact before

theorem Sound.change (sound : Sound rules store) (injective : Function.Injective rules.hash)
    {ended : ApiToken → Prop} (change : TokenChange rules store next ended)
    (after : store.clock ≤ next.clock)
    : Sound rules next := by
  unfold Sound
  have waited := sound.wait after
  cases change with
  | deleted rows ends ids issued =>
      rw [ids, issued]
      exact waited.sublist rows
  | used member id hash user live rows ids issued =>
      rw [rows, ids, issued]
      refine waited.write member id hash (fun userId counts => ?_)
      rw [← user, ← live]
      exact counts
  | revoked member ends before rows ids issued =>
      rw [rows, ids, issued]
      exact (waited.revoke member _).sublist (prune_sublist ..)
  | created nowAfter nowBefore few fresh rows ids issued =>
      rw [rows, ids, issued]
      refine (waited.append injective fresh rfl rfl (fun userId counts => ?_)).sublist
        (prune_sublist ..)
      rw [Bool.and_eq_true, decide_eq_true_eq] at counts
      rw [← counts.1]
      exact (activeApiTokenCount_later nowBefore).trans_lt few
  | @rotated token userId name plaintext scopes written pruned created member owner active ends
      prunedBefore fresh rows ids issued =>
      rw [rows, ids, issued]
      refine
        ((waited.revoke member written).append injective fresh rfl rfl
          (fun other counts => ?_)).sublist (prune_sublist ..)
      -- the replacement is live no longer than what it replaces, which is counted no more
      have replaced : (token.userId = other && token.isLive next.clock) = true := by
        rw [Bool.and_eq_true, decide_eq_true_eq] at counts ⊢
        refine ⟨owner.trans counts.1, ?_⟩
        have live := counts.2
        unfold ApiToken.isLive ApiToken.isExpired at live ⊢
        rw [active]
        exact live
      have counted :=
        @countP_write _ _ (ApiToken.revoked token written) waited.ids member rfl
          (fun token => token.userId = other && token.isLive next.clock)
      have before := waited.quota other
      rw [if_pos replaced, isLive_revoked, Bool.and_false, if_neg Bool.false_ne_true] at counted
      unfold activeApiTokenCount at before ⊢
      omega

theorem Sound.run (sound : Sound rules store) (injective : Function.Injective rules.hash)
    {events : List TokenEvent} (run : Run (step rules) Admits store events next)
    : Sound rules next :=
  run.preserves (Sound rules)
    (fun sound admitted taken => by
      rcases step_change admitted taken with ⟨change, after⟩
      exact sound.change injective change after)
    sound

/-- No live token has the digest of a plaintext that was handed out. -/
def Dead (rules : TokenRules) (digest : String) (store : TokenStore) : Prop :=
  (∃ plaintext ∈ store.issued, digest = rules.hash plaintext)
  ∧ ∀ token ∈ store.tokens, token.tokenHash = digest → token.isLive store.clock = false

theorem TokenChange.issued_subset {ended : ApiToken → Prop}
    (change : TokenChange rules store next ended)
    : store.issued ⊆ next.issued := by
  cases change with
  | deleted _ _ _ issued =>
      rw [issued]
      exact List.Subset.refl _
  | used _ _ _ _ _ _ _ issued =>
      rw [issued]
      exact List.Subset.refl _
  | revoked _ _ _ _ _ issued =>
      rw [issued]
      exact List.Subset.refl _
  | created _ _ _ _ _ _ issued =>
      rw [issued]
      exact List.subset_cons_self ..
  | rotated _ _ _ _ _ _ _ _ issued =>
      rw [issued]
      exact List.subset_cons_self ..

/-- Where a row comes from: it was there with the same digest and was live when it is now, or its
plaintext is new.
-/
theorem TokenChange.row {ended : ApiToken → Prop} (change : TokenChange rules store next ended)
    {row : ApiToken} (member : row ∈ next.tokens)
    : (∃ token ∈ store.tokens,
          token.tokenHash = row.tokenHash
          ∧ ∀ time, row.isLive time = true → token.isLive time = true)
      ∨ ∃ plaintext ∉ store.issued, row.tokenHash = rules.hash plaintext := by
  have kept (there : row ∈ store.tokens)
      : ∃ token ∈ store.tokens,
          token.tokenHash = row.tokenHash
          ∧ ∀ time, row.isLive time = true → token.isLive time = true :=
    ⟨row, there, rfl, fun _ live => live⟩
  have ended {token : ApiToken} {written : Timestamp} (tokenMember : token ∈ store.tokens)
      (there : row ∈ writeToken store.tokens (ApiToken.revoked token written))
      : ∃ token ∈ store.tokens,
          token.tokenHash = row.tokenHash
          ∧ ∀ time, row.isLive time = true → token.isLive time = true := by
    rcases mem_write there with same | ⟨other, -⟩
    · refine ⟨token, tokenMember, by rw [same]; rfl, fun time live => ?_⟩
      rw [same, isLive_revoked] at live
      cases live
    · exact kept other
  cases change with
  | deleted rows => exact .inl (kept (rows.subset member))
  | @used token written tokenMember id hash user live rows =>
      rw [rows] at member
      rcases mem_write member with same | ⟨other, -⟩
      · refine .inl ⟨token, tokenMember, by rw [same, hash], fun time liveNow => ?_⟩
        rw [same, live] at liveNow
        exact liveNow
      · exact .inl (kept other)
  | revoked tokenMember ends before rows =>
      rw [rows] at member
      exact .inl (ended tokenMember ((prune_sublist ..).subset member))
  | @created userId name plaintext scopes expiresAt now created after before few fresh rows =>
      rw [rows] at member
      rcases List.mem_append.mp ((prune_sublist ..).subset member) with old | new
      · exact .inl (kept old)
      · rw [List.mem_singleton.mp new]
        exact .inr ⟨plaintext, fresh, rfl⟩
  | @rotated token userId name plaintext scopes written pruned created tokenMember owner active
      ends before fresh rows =>
      rw [rows] at member
      rcases List.mem_append.mp ((prune_sublist ..).subset member) with old | new
      · exact .inl (ended tokenMember old)
      · rw [List.mem_singleton.mp new]
        exact .inr ⟨plaintext, fresh, rfl⟩

theorem Dead.change {digest : String} (dead : Dead rules digest store)
    (injective : Function.Injective rules.hash) {ended : ApiToken → Prop}
    (change : TokenChange rules store next ended) (after : store.clock ≤ next.clock)
    : Dead rules digest next := by
  rcases dead with ⟨⟨plaintext, handedOut, digestOf⟩, none_⟩
  refine ⟨⟨plaintext, change.issued_subset handedOut, digestOf⟩, fun row member same => ?_⟩
  rcases change.row member with ⟨token, tokenMember, hash, live⟩ | ⟨new, fresh, hash⟩
  · by_contra liveRow
    have liveToken := isLive_of_later after (live _ (by simpa using liveRow))
    rw [none_ token tokenMember (hash.trans same)] at liveToken
    cases liveToken
  · have known : new = plaintext := injective (hash.symm.trans (same.trans digestOf))
    exact absurd (known ▸ handedOut) fresh

theorem Dead.run {digest : String} (dead : Dead rules digest store)
    (injective : Function.Injective rules.hash) {events : List TokenEvent}
    (run : Run (step rules) Admits store events next)
    : Dead rules digest next :=
  run.preserves (Dead rules digest)
    (fun dead admitted taken => by
      rcases step_change admitted taken with ⟨change, after⟩
      exact dead.change injective change after)
    dead

theorem Dead.not_verified {digest presented : String} (dead : Dead rules digest store)
    (shown : rules.hash (strip presented) = digest) {checked : Timestamp}
    (after : store.clock ≤ checked) (used : Timestamp)
    : (verifyApiToken rules store presented checked used).1 = none := by
  rcases @verify_spec rules store presented checked used with
    ⟨refused, -⟩ | ⟨token, written, user, found, live, -⟩
  · exact refused
  · have hash := List.find?_some found
    rw [decide_eq_true_eq] at hash
    have old := isLive_of_later after live
    rw [dead.2 token (List.mem_of_find?_eq_some found) (hash.trans shown)] at old
    cases old

section Ended

variable (sound : Sound rules store) {token : ApiToken} (member : token ∈ store.tokens)

include sound member

theorem Sound.same_of_hash {other : ApiToken} (otherMember : other ∈ store.tokens)
    (same : other.tokenHash = token.tokenHash)
    : other = token :=
  List.inj_on_of_nodup_map sound.hashes otherMember member same

theorem Sound.same_of_id {other : ApiToken} (otherMember : other ∈ store.tokens)
    (same : other.id = token.id)
    : other = token :=
  List.inj_on_of_nodup_map sound.ids otherMember member same

theorem Sound.dead_of_expired (expired : token.isExpired store.clock = true)
    : Dead rules token.tokenHash store := by
  refine ⟨sound.handedOut token member, fun other otherMember same => ?_⟩
  rw [sound.same_of_hash member otherMember same]
  unfold ApiToken.isLive
  rw [expired, Bool.not_true, Bool.and_false]

theorem Sound.not_live_of_write {row : ApiToken} {written time : Timestamp}
    (rowMember : row ∈ writeToken store.tokens (ApiToken.revoked token written))
    (same : row.tokenHash = token.tokenHash)
    : row.isLive time = false := by
  rcases mem_write rowMember with itself | ⟨other, apart⟩
  · rw [itself]
    exact isLive_revoked ..
  · rw [sound.same_of_hash member other same] at apart
    exact absurd rfl apart

theorem Sound.dead_of_revoke {userId : AccountId} {moments : Moments}
    (revoked : (revokeApiToken store userId token.id moments).1 = true)
    : Dead rules token.tokenHash (revokeApiToken store userId token.id moments).2 := by
  rcases @revoke_spec store userId token.id moments with ⟨refused, -⟩ | ⟨other, found, result⟩
  · rw [refused] at revoked
    cases revoked
  · rcases findToken_eq_some found with ⟨otherMember, id, -⟩
    have itself := sound.same_of_id member otherMember id
    subst itself
    rw [result]
    refine ⟨sound.handedOut other otherMember, fun row rowMember same => ?_⟩
    exact sound.not_live_of_write otherMember ((prune_sublist ..).subset rowMember) same

theorem Sound.dead_of_rotate (injective : Function.Injective rules.hash) {userId : AccountId}
    {plaintext : String} {moments : Moments} {created : Timestamp}
    (fresh : plaintext ∉ store.issued)
    (replaced
      : ((rotateApiToken rules store userId token.id plaintext moments created).1).isSome = true)
    : Dead rules token.tokenHash
      (rotateApiToken rules store userId token.id plaintext moments created).2 := by
  rcases @rotate_spec rules store userId token.id plaintext moments created with
    ⟨refused, -⟩ | ⟨other, found, -, result⟩
  · rw [refused] at replaced
    cases replaced
  · rcases findToken_eq_some found with ⟨otherMember, id, -⟩
    have itself := sound.same_of_id member otherMember id
    subst itself
    rw [result]
    rcases sound.handedOut other otherMember with ⟨old, handedOut, hash⟩
    refine ⟨⟨old, List.mem_cons_of_mem _ handedOut, hash⟩, fun row rowMember same => ?_⟩
    rcases List.mem_append.mp ((prune_sublist ..).subset rowMember) with before | new
    · exact sound.not_live_of_write otherMember before same
    · rw [List.mem_singleton.mp new, hash] at same
      exact absurd (injective same ▸ handedOut) fresh

theorem Sound.kept {ended : ApiToken → Prop} (change : TokenChange rules store next ended)
    (live : token.isLive next.clock = true) (goesOn : ¬ended token)
    : ∃ row ∈ next.tokens,
        row.id = token.id ∧ row.tokenHash = token.tokenHash ∧ row.isLive next.clock = true := by
  have apart {other : ApiToken} (otherMember : other ∈ store.tokens) (ends : ended other)
      : token.id ≠ other.id := by
    intro same
    rw [← sound.same_of_id member otherMember same.symm] at goesOn
    exact goesOn ends
  cases change with
  | deleted rows ends =>
      by_contra gone
      exact goesOn (ends token member (fun there => gone ⟨token, there, rfl, rfl, live⟩))
  | @used other written otherMember id hash user same rows =>
      rw [rows]
      by_cases here : token.id = written.id
      · have itself := sound.same_of_id member otherMember (id.symm.trans here.symm)
        subst itself
        refine ⟨written, written_mem_write member here, id, hash, ?_⟩
        rw [same]
        exact live
      · exact ⟨token, mem_write_of_ne member here, rfl, rfl, live⟩
  | @revoked other userId written pruned otherMember ends before rows =>
      rw [rows]
      have different : token.id ≠ (ApiToken.revoked other written).id :=
        @apart other otherMember ends
      have there := mem_write_of_ne member different
      have unique := (SoundRows.revoke sound otherMember written).ids
      exact
        ⟨token, mem_prune_of_live unique there (isLive_of_later before live) userId, rfl, rfl, live⟩
  | @created userId name plaintext scopes expiresAt now created after before few fresh rows =>
      rw [rows]
      have unique := sound.ids_append
        (show (newApiToken rules store userId name scopes expiresAt plaintext created).id
          = store.nextId from rfl)
      exact
        ⟨token,
          mem_prune_of_live unique (List.mem_append_left _ member) (isLive_of_later before live)
            userId,
          rfl, rfl, live⟩
  | @rotated other userId name plaintext scopes written pruned created otherMember owner active
      ends before fresh rows =>
      rw [rows]
      have different : token.id ≠ (ApiToken.revoked other written).id :=
        @apart other otherMember ends
      have there := mem_write_of_ne member different
      have unique := (SoundRows.revoke sound otherMember written).ids_append
        (show (newApiToken rules store userId name scopes other.expiresAt plaintext created).id
          = store.nextId from rfl)
      exact
        ⟨token,
          mem_prune_of_live unique (List.mem_append_left _ there) (isLive_of_later before live)
            userId,
          rfl, rfl, live⟩

end Ended

/-- From here on, no text with this digest is verified. -/
def NeverVerified (rules : TokenRules) (digest : String) (store : TokenStore) : Prop :=
  ∀ events later,
    Run (step rules) Admits store events later
    → ∀ presented checked used,
        later.clock ≤ checked
        → rules.hash (strip presented) = digest
        → (verifyApiToken rules later presented checked used).1 = none

theorem Dead.never_verified {digest : String} (dead : Dead rules digest store)
    (injective : Function.Injective rules.hash)
    : NeverVerified rules digest store :=
  fun _ _ run _ _ used after shown => (dead.run injective run).not_verified shown after used

/-- In every run from a store without tokens, an account never has more live tokens than it may
have, a step deletes no live token that it does not end, what was revoked, replaced or has
expired is never verified again, and no token of an account that is inactive or gone is.
-/
theorem apiTokens_law (rules : TokenRules) (injective : Function.Injective rules.hash)
    {start finish : TokenStore} {events : List TokenEvent} (empty : start.tokens = [])
    (run : Run (step rules) Admits start events finish)
    : (∀ userId time,
          finish.clock ≤ time
          → activeApiTokenCount finish.tokens userId time ≤ apiTokenMaxActivePerAccount)
      ∧ (∀ event next,
          Admits finish event
          → step rules finish event = some next
          → ∀ token ∈ finish.tokens,
              token.isLive next.clock = true
              → ¬Ends event token
              → ∃ row ∈ next.tokens,
                  row.id = token.id ∧ row.tokenHash = token.tokenHash
                  ∧ row.isLive next.clock = true)
      ∧ (∀ token ∈ finish.tokens,
          (∀ userId moments,
              Admits finish (.revoke userId token.id moments)
              → (revokeApiToken finish userId token.id moments).1 = true
              → NeverVerified rules token.tokenHash
                  (revokeApiToken finish userId token.id moments).2)
          ∧ (∀ userId plaintext moments created,
              Admits finish (.rotate userId token.id plaintext moments created)
              → (rotateApiToken rules finish userId token.id plaintext moments created).1.isSome
                = true
              → NeverVerified rules token.tokenHash
                  (rotateApiToken rules finish userId token.id plaintext moments created).2)
          ∧ (token.isExpired finish.clock = true → NeverVerified rules token.tokenHash finish))
      ∧ ∀ token ∈ finish.tokens,
          ((finish.users.get? token.userId).all (fun user => !user.isActive)) = true
          → ∀ presented checked used,
              rules.hash (strip presented) = token.tokenHash
              → (verifyApiToken rules finish presented checked used).1 = none := by
  have started : Sound rules start := by
    refine ⟨?_, ?_, ?_, ?_, fun userId => ?_⟩
    all_goals rw [empty]
    · exact List.nodup_nil
    · intro token member
      cases member
    · exact List.nodup_nil
    · intro token member
      cases member
    · exact Nat.zero_le _
  have sound := started.run injective run
  refine ⟨fun userId time after => (sound.wait after).quota userId, ?_, ?_, ?_⟩
  · intro event next admitted taken token member live goesOn
    rcases step_change admitted taken with ⟨change, -⟩
    exact sound.kept member change live goesOn
  · intro token member
    refine ⟨fun userId moments _ revoked => ?_, fun userId plaintext moments created admitted
      replaced => ?_, fun expired => ?_⟩
    · exact (sound.dead_of_revoke member revoked).never_verified injective
    · exact (sound.dead_of_rotate member injective admitted.2.2 replaced).never_verified injective
    · exact (sound.dead_of_expired member expired).never_verified injective
  · intro token member inactive presented checked used shown
    rcases @verify_spec rules finish presented checked used with
      ⟨refused, -⟩ | ⟨other, written, user, found, live, known, active, -⟩
    · exact refused
    · have hash := List.find?_some found
      rw [decide_eq_true_eq] at hash
      have itself :=
        sound.same_of_hash member (List.mem_of_find?_eq_some found) (hash.trans shown)
      rw [itself] at known
      rw [known, Option.all_some, active] at inactive
      cases inactive

def oneAccount : TokenStore where
  clock := 0
  users := ⟨[(1, ⟨"ada", "digest", none, true, false, "user", 0⟩)], by decide⟩
  tokens := []
  nextId := 1
  issued := []

def plainTokens : TokenRules := ⟨⟨id, Char.isAlphanum, fun _ => none, fun _ => ""⟩, id⟩

def readOnly : CreateRequest := ⟨.text "player", .text "read:status", .int 1⟩

def oneToken : TokenStore :=
  (createApiToken plainTokens oneAccount 1 readOnly "first" 0 0 0).2

theorem rotated_plaintext_refused
    : (verifyApiToken plainTokens oneToken "first" 2 2).1.isSome = true
      ∧ NeverVerified plainTokens "first"
          (rotateApiToken plainTokens oneToken 1 1 "second" ⟨2, 2, 2⟩ 2).2 := by
  have created : Run (step plainTokens) Admits oneAccount
      [.create 1 readOnly "first" 0 0 0] oneToken :=
    .cons ⟨le_rfl, le_rfl, le_rfl, List.not_mem_nil⟩ rfl (.nil _)
  have law := apiTokens_law plainTokens Function.injective_id rfl created
  let token := newApiToken plainTokens oneAccount 1 "player" ["read:status"]
    (some (1 * (86400 * second))) "first" 0
  have member : token ∈ oneToken.tokens := by decide
  have replaced := (law.2.2.1 token member).2.1 1 "second" ⟨2, 2, 2⟩ 2
  refine ⟨by decide, replaced ⟨?_, ?_, ?_⟩ ?_⟩
  · exact ⟨by decide, by decide, by decide⟩
  · decide
  · decide
  · decide

end TokenStore

end OctoHubs.Accounts
