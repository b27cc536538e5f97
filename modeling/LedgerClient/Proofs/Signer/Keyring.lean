import LedgerClient.Proofs.Signer.Store
import LedgerClient.Proofs.Signer.Vault
import LedgerClient.Proofs.Transaction.Signed

/-! A key store and a resident signer over it, used in any order. What is kept for an address and
which account is unlocked is told by the last act that has changed it. -/

namespace LedgerClient

namespace Keyring

open Curve Signing

inductive Act where
  | save (k : KeyPair) (nonce : Gcm.Nonce) (c : Credential)
  | insertSealed (a : Address) (sealed : SealedKey)
  | load (a : Address) (c : Credential)
  | handOut (a : Address) (c : Credential)
  | remove (a : Address) (c : Credential)
  | identities
  | use (u : Use)

inductive Yield where
  | done
  | address (a : Address)
  | key (k : KeyPair)
  | sealed (k : SealedKey)
  | addresses (as : List Address)
  | answer (x : Signing.Answer)

inductive Fault where
  | store (cause : KeyStoreError)
  | signer (cause : SignerError)

def settle (s : LocalSigner) :
    Except KeyStoreError (Yield × KeyStore) → Except Fault Yield × LocalSigner
  | .ok (y, store) => (.ok y, { s with store })
  | .error cause => (.error (.store cause), s)

def perform (s : LocalSigner) : Act → Except Fault Yield × LocalSigner
  | .save k nonce c => settle s ((s.store.save k nonce c).map fun (a, store) => (.address a, store))
  | .insertSealed a k => settle s (.ok (.done, s.store.insertSealed a k))
  | .load a c => (((s.store.load a c).map .key).mapError .store, s)
  | .handOut a c => (((s.store.handOut a c).map .sealed).mapError .store, s)
  | .remove a c => settle s ((s.store.remove a c).map (.done, ·))
  | .identities => (.ok (.addresses s.store.identities), s)
  | .use u => (((s.answer u).1.map .answer).mapError .signer, (s.answer u).2)

def after (s : LocalSigner) (acts : List Act) : LocalSigner :=
  acts.foldl (fun s act => (perform s act).2) s

/-- An act of a history satisfies `P`, and none after it satisfies `Q`. -/
inductive Since (P Q : LocalSigner → Act → Prop) (s : LocalSigner) : List Act → Prop
  | now (acts : List Act) {act : Act} (h : P (after s acts) act) : Since P Q s (acts ++ [act])
  | still {acts : List Act} (act : Act) (h : Since P Q s acts) (hq : ¬ Q (after s acts) act) :
      Since P Q s (acts ++ [act])

def Succeeds (s : LocalSigner) (act : Act) : Prop := ∃ y, (perform s act).1 = .ok y

def Saves (k : KeyPair) (c : Credential) (_ : LocalSigner) (act : Act) : Prop :=
  ∃ nonce, act = .save k nonce c

inductive Files (a : Address) (s : LocalSigner) : Act → Prop
  | save {k : KeyPair} {nonce : Gcm.Nonce} {c : Credential} (h : k.address = a) :
      Files a s (.save k nonce c)
  | insertSealed {k : SealedKey} : Files a s (.insertSealed a k)

def Drops (a : Address) (s : LocalSigner) (act : Act) : Prop :=
  ∃ c, act = .remove a c ∧ Succeeds s act

def Displaces (a : Address) (s : LocalSigner) (act : Act) : Prop := Files a s act ∨ Drops a s act

def Unlocks (a : Address) (s : LocalSigner) (act : Act) : Prop :=
  ∃ c, act = .use (.unlock a c) ∧ Succeeds s act

inductive Releases (s : LocalSigner) : Act → Prop
  | lock : Releases s (.use .lock)
  | unlock {a : Address} {act : Act} (h : Unlocks a s act) : Releases s act

inductive Looks : Act → Prop
  | load (a : Address) (c : Credential) : Looks (.load a c)
  | handOut (a : Address) (c : Credential) : Looks (.handOut a c)
  | identities : Looks .identities

variable {s : LocalSigner} {acts : List Act} {act : Act} {a : Address} {c : Credential} {k : KeyPair}

lemma after_append (acts : List Act) (act : Act) :
    after s (acts ++ [act]) = (perform (after s acts) act).2 := by
  simp [after]

lemma since_append {P Q : LocalSigner → Act → Prop} :
    Since P Q s (acts ++ [act]) ↔
      P (after s acts) act ∨ Since P Q s acts ∧ ¬ Q (after s acts) act := by
  constructor
  · intro h
    generalize hall : acts ++ [act] = all at h
    cases h with
    | now acts' h =>
      obtain ⟨rfl, rfl⟩ := List.append_singleton_inj.1 hall
      exact .inl h
    | still act' h hq =>
      obtain ⟨rfl, rfl⟩ := List.append_singleton_inj.1 hall
      exact .inr ⟨h, hq⟩
  · rintro (h | ⟨h, hq⟩)
    · exact .now acts h
    · exact .still act h hq

lemma not_since_nil {P Q : LocalSigner → Act → Prop} : ¬ Since P Q s [] := by
  intro h
  generalize hall : ([] : List Act) = all at h
  cases h with
  | now acts => exact absurd hall.symm (List.append_ne_nil_of_right_ne_nil acts nofun)
  | still => exact absurd hall.symm (List.append_ne_nil_of_right_ne_nil _ nofun)

lemma settle_of_error {result : Except KeyStoreError (Yield × KeyStore)} {e : Fault}
    (h : (settle s result).1 = .error e) : (settle s result).2 = s := by
  cases result with
  | ok store => cases h
  | error cause => rfl

lemma unlocked_settle (result : Except KeyStoreError (Yield × KeyStore)) :
    (settle s result).2.unlocked = s.unlocked := by
  cases result <;> rfl

lemma answer_of_error {u : Use} {e : SignerError} (h : (s.answer u).1 = .error e) :
    (s.answer u).2 = s := by
  cases u with
  | unlock a c =>
    cases hload : s.store.load a c with
    | ok k =>
      rw [answer_unlock_of_ok hload] at h
      cases h
    | error cause => rw [answer_unlock_of_error hload]
  | lock => cases h
  | _ => rfl

lemma perform_of_error {e : Fault} (h : (perform s act).1 = .error e) : (perform s act).2 = s := by
  cases act with
  | save => exact settle_of_error h
  | insertSealed => cases h
  | remove => exact settle_of_error h
  | use u =>
    cases hu : (s.answer u).1 with
    | ok x =>
      rw [perform, hu] at h
      cases h
    | error cause => exact answer_of_error hu
  | _ => rfl

lemma store_answer (u : Use) : (s.answer u).2.store = s.store := by
  cases u with
  | unlock a c =>
    cases hload : s.store.load a c with
    | ok k => rw [answer_unlock_of_ok hload]
    | error cause => rw [answer_unlock_of_error hload]
  | _ => rfl

lemma perform_unlock_of_ok (h : s.store.load a c = .ok k) :
    perform s (.use (.unlock a c)) =
      (.ok (.answer (.account k.address)), { s with unlocked := some k }) := by
  rw [perform, answer_unlock_of_ok h]
  rfl

lemma perform_unlock_of_error {cause : KeyStoreError} (h : s.store.load a c = .error cause) :
    perform s (.use (.unlock a c)) = (.error (.signer (.ofKeyStore cause)), s) := by
  rw [perform, answer_unlock_of_error h]
  rfl

lemma load_of_unlocks (h : Unlocks a s act) :
    ∃ k c, act = .use (.unlock a c) ∧ s.store.load a c = .ok k ∧ k.address = a := by
  obtain ⟨c, rfl, y, hy⟩ := h
  cases hload : s.store.load a c with
  | ok k => exact ⟨k, c, rfl, hload, KeyStore.address_of_load hload⟩
  | error cause =>
    rw [perform_unlock_of_error hload] at hy
    cases hy

lemma unlocked_of_unlocks (h : Unlocks a s act) :
    ∃ k, (perform s act).2.unlocked = some k ∧ k.address = a := by
  obtain ⟨k, c, rfl, hload, hk⟩ := load_of_unlocks h
  exact ⟨k, by rw [perform_unlock_of_ok hload], hk⟩

lemma unlocked_of_not_releases (h : ¬ Releases s act) :
    (perform s act).2.unlocked = s.unlocked := by
  cases act with
  | save | insertSealed | remove => exact unlocked_settle _
  | use u =>
    cases u with
    | unlock a c =>
      cases hload : s.store.load a c with
      | ok k => exact absurd (.unlock ⟨c, rfl, _, congrArg Prod.fst (perform_unlock_of_ok hload)⟩) h
      | error cause => rw [perform_unlock_of_error hload]
    | lock => exact absurd .lock h
    | _ => rfl
  | _ => rfl

lemma perform_save (nonce : Gcm.Nonce) : perform s (.save k nonce c) =
    (.ok (.address k.address), { s with
      store := s.store.set k.address ⟨Sealing.envelope nonce c.bytes k.toBytes.val⟩ }) := by
  rw [perform, KeyStore.save_eq]
  rfl

lemma perform_remove {store : KeyStore} (h : s.store.remove a c = .ok store) :
    perform s (.remove a c) = (.ok .done, { s with store := s.store.erase a }) := by
  rw [perform, h, KeyStore.eq_erase_of_remove h]
  rfl

lemma get?_of_files (h : Files a s act) : ((perform s act).2.store.get? a).isSome := by
  cases h with
  | save h =>
    subst h
    rw [perform_save, Table.get?_set_self]
    rfl
  | @insertSealed k =>
    have hget : (s.store.set a k).get? a = some k := Table.get?_set_self _ _ _
    exact Option.isSome_of_eq_some hget

lemma get?_of_drops (h : Drops a s act) : (perform s act).2.store.get? a = none := by
  obtain ⟨c, rfl, y, hy⟩ := h
  cases hremove : s.store.remove a c with
  | ok store => rw [perform_remove hremove, Table.get?_erase_self]
  | error cause =>
    rw [perform, hremove] at hy
    cases hy

lemma not_displaces_use {u : Use} : ¬ Displaces a s (.use u) := by
  rintro (h | ⟨_, h, -⟩) <;> cases h

lemma get?_of_not_displaces (h : ¬ Displaces a s act) :
    (perform s act).2.store.get? a = s.store.get? a := by
  obtain ⟨hfiles, hdrops⟩ := not_or.1 h
  cases act with
  | save k nonce c =>
    rw [perform_save]
    exact Table.get?_set_of_ne _ _ fun hk => hfiles (.save hk.symm)
  | insertSealed b k =>
    refine Table.get?_set_of_ne _ _ ?_
    rintro rfl
    exact hfiles .insertSealed
  | remove b c =>
    cases hremove : s.store.remove b c with
    | error cause =>
      rw [perform, hremove]
      rfl
    | ok store =>
      rw [perform_remove hremove]
      refine Table.get?_erase_of_ne _ ?_
      rintro rfl
      exact hdrops ⟨c, rfl, .done, by rw [perform_remove hremove]⟩
  | use u => rw [perform, store_answer]
  | _ => rfl

lemma get?_iff_since : ((after s acts).store.get? a).isSome ↔
    Since (Files a) (Drops a) s acts ∨
      (s.store.get? a).isSome ∧ ¬ Since (Drops a) (Files a) s acts := by
  induction acts using List.reverseRecOn with
  | nil => simp [after, not_since_nil]
  | append_singleton acts act ih =>
    -- The last act decides, unless it has nothing to do with the address.
    rw [after_append, since_append, since_append]
    by_cases hfiles : Files a (after s acts) act
    · simp [get?_of_files hfiles, hfiles]
    by_cases hdrops : Drops a (after s acts) act
    · simp [get?_of_drops hdrops, hfiles, hdrops]
    · rw [get?_of_not_displaces (not_or.2 ⟨hfiles, hdrops⟩), ih]
      simp [hfiles, hdrops]

lemma Since.keeps (h : Since (Saves k c) (Displaces k.address) s acts) :
    (after s acts).store.Keeps k c := by
  induction h with
  | now acts h =>
    obtain ⟨nonce, rfl⟩ := h
    rw [after_append, perform_save]
    exact KeyStore.keeps_save (KeyStore.save_eq _ k nonce c)
  | still _ _ hq ih =>
    obtain ⟨sealed, hget, himport⟩ := ih
    rw [after_append]
    exact ⟨sealed, (get?_of_not_displaces hq).trans hget, himport⟩

lemma unlocked_iff_since (hs : s.unlocked = none) :
    (∃ k, (after s acts).unlocked = some k ∧ k.address = a) ↔
      Since (Unlocks a) Releases s acts := by
  induction acts using List.reverseRecOn with
  | nil => simp [after, hs, not_since_nil]
  | append_singleton acts act ih =>
    rw [after_append, since_append]
    by_cases hact : Releases (after s acts) act
    · rw [or_iff_left fun h => h.2 hact]
      constructor
      · rintro ⟨k, hk, rfl⟩
        cases hact with
        | lock => cases hk
        | unlock h =>
          obtain ⟨k', hk', rfl⟩ := unlocked_of_unlocks h
          obtain rfl := Option.some.inj (hk'.symm.trans hk)
          exact h
      · exact unlocked_of_unlocks
    · rw [unlocked_of_not_releases hact, ih, or_iff_right fun h => hact (.unlock h),
        and_iff_left hact]

lemma succeeds_sign {tx : Transaction} :
    Succeeds s (.use (.sign tx)) ↔ ∃ signed, s.sign tx = .ok signed := by
  have hanswer : (perform s (.use (.sign tx))).1 =
      (((s.sign tx).map .signed).map .answer).mapError .signer := rfl
  rw [Succeeds, hanswer]
  cases s.sign tx with
  | ok signed => exact iff_of_true ⟨_, rfl⟩ ⟨signed, rfl⟩
  | error e => exact iff_of_false (fun ⟨_, h⟩ => nomatch h) (fun ⟨_, h⟩ => nomatch h)

lemma succeeds_sign_iff {tx : Transaction}
    (hsign : ∀ k, s.unlocked = some k → (Ecdsa.sign k.secret tx.hash.digest).isSome) :
    Succeeds s (.use (.sign tx)) ↔ ∃ k, s.unlocked = some k ∧ k.address = tx.sender := by
  obtain ⟨store, unlocked⟩ := s
  rw [succeeds_sign]
  cases unlocked with
  | none => exact iff_of_false (fun ⟨_, h⟩ => nomatch h) (fun ⟨_, h, _⟩ => nomatch h)
  | some k =>
    obtain ⟨pair, hpair⟩ := Option.isSome_iff_exists.1 (hsign k rfl)
    constructor
    · rintro ⟨signed, h⟩
      exact ⟨k, rfl, Except.ok.inj (LocalSigner.sign_eq_ok h).2⟩
    · rintro ⟨k', hk', hsender⟩
      obtain rfl : k = k' := Option.some.inj hk'
      have hsigned : k.signTransaction tx = .ok ⟨tx, .ofPair pair⟩ :=
        KeyPair.signTransaction_eq_ok.2 ⟨KeyPair.signDigest_eq_ok.2 ⟨pair, hpair, rfl⟩, rfl⟩
      have hensure : ensureSender k.address tx = .ok () := if_pos hsender.symm
      rw [sign_unlocked, hensure, exceptBind_ok, hsigned]
      exact ⟨_, rfl⟩

structure Sound (start : LocalSigner) (acts : List Act) : Prop where
  load {a : Address} {c : Credential} {k : KeyPair}
    (h : (perform (after start acts) (.load a c)).1 = .ok (.key k)) : k.address = a
  unlock {a : Address} {c : Credential} (h : Succeeds (after start acts) (.use (.unlock a c))) :
    ∃ k, perform (after start acts) (.use (.unlock a c)) =
      (.ok (.answer (.account a)), { after start acts with unlocked := some k }) ∧ k.address = a
  saved {k : KeyPair} {c : Credential}
    (h : Since (Saves k c) (Displaces k.address) start acts) :
    perform (after start acts) (.load k.address c) = (.ok (.key k), after start acts) ∧
      (∃ sealed, perform (after start acts) (.handOut k.address c) =
        (.ok (.sealed sealed), after start acts) ∧
          KeyPair.importSealed sealed c.bytes = .ok k) ∧
      perform (after start acts) (.use (.unlock k.address c)) =
        (.ok (.answer (.account k.address)), { after start acts with unlocked := some k })
  failed {act : Act} {e : Fault} (h : (perform (after start acts) act).1 = .error e) :
    (perform (after start acts) act).2 = after start acts
  looked {act : Act} (h : Looks act) : (perform (after start acts) act).2 = after start acts
  save {k : KeyPair} {nonce : Gcm.Nonce} {c : Credential} :
    (perform (after start acts) (.save k nonce c)).1 = .ok (.address k.address)
  identities : ∃ as, (perform (after start acts) .identities).1 = .ok (.addresses as) ∧
    as.Pairwise (fun a b => a.lt b) ∧
      (∀ a, a ∈ as ↔ ((after start acts).store.get? a).isSome) ∧
      ∀ a, a ∈ as ↔ Since (Files a) (Drops a) start acts ∨
        (start.store.get? a).isSome ∧ ¬ Since (Drops a) (Files a) start acts
  sign {tx : Transaction} (hsign : ∀ k, (after start acts).unlocked = some k →
      (Ecdsa.sign k.secret tx.hash.digest).isSome) :
    Succeeds (after start acts) (.use (.sign tx)) ↔
      Since (Unlocks tx.sender) Releases start acts

/-- Whatever has been done to a store and with a signer over it that was locked at first: a secret
is had for its own account only, a saved one until it is displaced; failures and looks change
nothing; and the signer signs for the account that was unlocked last, if it has not been locked. -/
theorem keyring_sound (store : KeyStore) (acts : List Act) : Sound (.ofStore store) acts where
  load h := by
    cases hload : (after (.ofStore store) acts).store.load _ _ with
    | ok k =>
      rw [perform, hload] at h
      cases h
      exact KeyStore.address_of_load hload
    | error cause =>
      rw [perform, hload] at h
      cases h
  unlock h := by
    obtain ⟨k, c, hact, hload, rfl⟩ := load_of_unlocks ⟨_, rfl, h⟩
    cases hact
    exact ⟨k, perform_unlock_of_ok hload, rfl⟩
  saved h := by
    have hkeeps := h.keeps
    obtain ⟨sealed, hhandOut, himport⟩ := hkeeps.handOut
    refine ⟨?_, ⟨sealed, ?_, himport⟩, perform_unlock_of_ok hkeeps.load⟩
    · rw [perform, hkeeps.load]
      rfl
    · rw [perform, hhandOut]
      rfl
  failed h := perform_of_error h
  looked h := by cases h <;> rfl
  save := congrArg Prod.fst (perform_save _)
  identities := ⟨_, rfl, KeyStore.pairwise_identities _, fun _ => KeyStore.mem_identities,
    fun _ => KeyStore.mem_identities.trans get?_iff_since⟩
  sign hsign := (succeeds_sign_iff hsign).trans (unlocked_iff_since rfl)

theorem keyring_sound_removed :
    let k : KeyPair := .ofSecret ⟨3, by decide, by decide⟩
    let c : Credential := ⟨"pw"⟩
    let tx : Transaction :=
      { chain := .ofName [], sender := k.address, recipient := none, amount := 5, nonce := 8,
        fee := .zero, payload := [], kind := .normal }
    let start : LocalSigner := .ofStore .empty
    let acts : List Act := [.save k ⟨List.replicate 12 0, rfl⟩ c, .use (.unlock k.address c),
      .remove k.address c]
    Sound start acts ∧ (after start acts).store.get? k.address = none ∧
      Succeeds (after start acts) (.use (.sign tx)) := by
  intro k c tx start acts
  let save : Act := .save k ⟨List.replicate 12 0, rfl⟩ c
  let unlock : Act := .use (.unlock k.address c)
  have hsave : Since (Saves k c) (Displaces k.address) start [save] :=
    .now [] ⟨_, rfl⟩
  have hunlocked : perform (after start [save]) unlock =
      (.ok (.answer (.account k.address)), { after start [save] with unlocked := some k }) :=
    ((keyring_sound .empty [save]).saved hsave).2.2
  have hkept : ¬ Displaces k.address (after start [save]) unlock := not_displaces_use
  have hkeeps : (after start [save, unlock]).store.Keeps k c := (hsave.still unlock hkept).keeps
  have hafter : (after start [save, unlock]).unlocked = some k := by
    rw [show after start [save, unlock] = _ from after_append [save] unlock, hunlocked]
  have hlast : after start acts = (perform (after start [save, unlock]) (.remove k.address c)).2 :=
    after_append [save, unlock] _
  have hremove : ¬ Releases (after start [save, unlock]) (.remove k.address c) := by
    rintro (- | ⟨_, h, -⟩)
    cases h
  have hunlock : Since (Unlocks k.address) Releases start [save, unlock] :=
    .now [save] ⟨c, rfl, _, congrArg Prod.fst hunlocked⟩
  have hsince : Since (Unlocks k.address) Releases start acts :=
    hunlock.still (.remove k.address c) hremove
  have hsound := keyring_sound .empty acts
  refine ⟨hsound, ?_, (hsound.sign fun k' hk' => ?_).2 hsince⟩
  · rw [hlast, perform_remove hkeeps.remove, Table.get?_erase_self]
  · rw [hlast, unlocked_of_not_releases hremove, hafter] at hk'
    obtain rfl := Option.some.inj hk'
    exact Option.isSome_iff_exists.2 ⟨_, KeyPair.sign_small_payment⟩

end Keyring

end LedgerClient
