/-
  ConnPool.Proofs.Pool.Registering

  A registry that is filled by calls.

  A call is refused for the first rule that it breaks (`Breaks`): its lists are
  equally long, its floor is within its ceiling, and its key is free.  A call
  that is refused changes nothing; one that is accepted lays what it asks for
  under its key, where it stays.  So the registry holds, under each key, what the
  first call accepted for that key asks for (`get?_afterCalls_iff`).
-/

import ConnPool.Pool.Registry
import ConnPool.Proofs.Pool.Sizing
import ConnPool.Proofs.Text.ByteOrder
import Mathlib.Data.List.Induction

namespace ConnPool

open Client (utf8Bytes utf8Bytes_lt_iff)

/-! ## One configuration -/

namespace Registry

theorem register_of_get?_none {registry : Registry} {config : PoolConfig}
    (h : registry.get? config.key = none) :
    registry.register config = .ok (registry.insert config.key config) := by
  rw [register, KeyMap.contains, h]
  rfl

theorem register_of_contains {registry : Registry} {config : PoolConfig}
    (h : registry.contains config.key = true) :
    registry.register config = .error (.duplicatePool config.key) := by
  rw [register, if_pos h]

end Registry

namespace RegistryDraft

variable {draft : RegistryDraft} {config : PoolConfig}

/-- The draft with one more configuration. -/
def extended (draft : RegistryDraft) (config : PoolConfig) : RegistryDraft :=
  ⟨draft.registry.insert config.key config, draft.log ++ [registered config]⟩

theorem add_of_get?_none (h : draft.registry.get? config.key = none) :
    draft.add (.ok config) = (.ok (), draft.extended config) := by
  rw [add]
  simp only [Registry.register_of_get?_none h]
  rfl

theorem add_of_contains (h : draft.registry.contains config.key = true) :
    draft.add (.ok config) = (.error (.duplicatePool config.key), draft) := by
  rw [add]
  simp only [Registry.register_of_contains h]

end RegistryDraft

/-! ## Calls, and the rules for them -/

/-- A call that registers a pool.  Its sizes are as given: zero asks for a default. -/
inductive RegisterCall where
  /-- A pool on a connection string. -/
  | uri (key : PoolKey) (minSize maxSize : Nat) (text : String)
  /-- A pool on parameters, given as two lists. -/
  | params (key : PoolKey) (minSize maxSize : Nat) (keys values : List String)
      (expandDbname : Bool)
  /-- A pool on any target, with a batch that was set. -/
  | built (key : PoolKey) (target : Target) (minSize maxSize batch : Nat)

namespace RegisterCall

/-- The configuration that the call registers, or why it registers none. -/
def config : RegisterCall → Except PoolError PoolConfig
  | uri key minSize maxSize text => (PoolRequest.uri key minSize maxSize text).config
  | params key minSize maxSize keys values expandDbname =>
    (PoolRequest.params key minSize maxSize keys values expandDbname).config
  | built key target minSize maxSize batch =>
    (PoolConfig.ofSizes key target minSize maxSize).map (·.withBatch batch)

/-- Whether the lists that are given have the same length. -/
def Matched : RegisterCall → Prop
  | uri .. | built .. => True
  | params _ _ _ keys values _ => keys.length = values.length

/-- The configuration that the call asks for, if nothing is wrong with it. -/
def wanted : RegisterCall → PoolConfig
  | uri key minSize maxSize text => .defaulted key (.uri text) minSize maxSize 0
  | params key minSize maxSize keys values expandDbname =>
    .defaulted key (.params (keys.zip values) expandDbname) minSize maxSize 0
  | built key target minSize maxSize batch => .defaulted key target minSize maxSize batch

/-- The key that the call is about. -/
def key (call : RegisterCall) : PoolKey :=
  call.wanted.key

/-- The first rule that a call breaks, as the error that says so. -/
inductive Breaks (registry : Registry) : RegisterCall → PoolError → Prop where
  | lists {key : PoolKey} {minSize maxSize : Nat} {keys values : List String}
      {expandDbname : Bool} (hlists : keys.length ≠ values.length) :
      Breaks registry (.params key minSize maxSize keys values expandDbname)
        (.invalidConfig s!"{keys.length} parameter keys but {values.length} values")
  | sizes {call : RegisterCall} {config : PoolConfig} (hlists : call.Matched)
      (hwanted : call.wanted = config) (hsizes : config.maxSize < config.minSize) :
      Breaks registry call (.invalidConfig
        s!"pool `{config.key}`: min_size {config.minSize} exceeds max_size {config.maxSize}")
  | duplicate {call : RegisterCall} (hlists : call.Matched)
      (hsizes : call.wanted.minSize ≤ call.wanted.maxSize) (hkey : call.key ∈ registry.keys) :
      Breaks registry call (.duplicatePool call.key)

/-- Whether a call breaks no rule. -/
structure Keeps (registry : Registry) (call : RegisterCall) : Prop where
  lists : call.Matched
  sizes : call.wanted.minSize ≤ call.wanted.maxSize
  free : call.key ∉ registry.keys

variable {registry : Registry} {call : RegisterCall}

theorem keeps_or_breaks (registry : Registry) (call : RegisterCall) :
    call.Keeps registry ∨ ∃ error, Breaks registry call error := by
  -- in the order in which the rules are looked at
  by_cases hlists : call.Matched
  case neg =>
    cases call with
    | uri | built => exact absurd trivial hlists
    | params => exact .inr ⟨_, .lists hlists⟩
  rcases Nat.lt_or_ge call.wanted.maxSize call.wanted.minSize with hsizes | hsizes
  · exact .inr ⟨_, .sizes hlists rfl hsizes⟩
  by_cases hkey : call.key ∈ registry.keys
  · exact .inr ⟨_, .duplicate hlists hsizes hkey⟩
  · exact .inl ⟨hlists, hsizes, hkey⟩

/-- A pool on a connection string that is asked for with a batch is built so. -/
theorem config_batched (key : PoolKey) (minSize maxSize : Nat) (text : String) (batch : Nat) :
    (PoolRequest.batched key minSize maxSize text batch).config =
      (built key (.uri text) minSize maxSize batch).config := by
  rw [PoolRequest.config, config]
  cases PoolConfig.ofSizes key (.uri text) minSize maxSize <;> rfl

theorem config_of_matched (h : call.Matched) : call.config = call.wanted.checked := by
  cases call with
  | uri => rfl
  | params key minSize maxSize keys values expandDbname =>
      have hlists : keys.length = values.length := h
      rw [config, PoolRequest.config, Target.ofLists, if_pos hlists]
      rfl
  | built key target minSize maxSize batch =>
      exact PoolConfig.map_withBatch_ofSizes key target minSize maxSize batch

theorem Keeps.config_eq (h : call.Keeps registry) : call.config = .ok call.wanted := by
  rw [config_of_matched h.lists, PoolConfig.checked, if_neg (Nat.not_lt.2 h.sizes)]

theorem Keeps.sized (h : call.Keeps registry) : call.wanted.Sized := by
  have hsizes := h.sizes
  cases call with
  | uri | params | built => exact .defaulted _ _ _ _ _ hsizes

/-! ### One call -/

variable {draft : RegistryDraft}

/-- A call that breaks no rule is accepted. -/
theorem Keeps.add (h : call.Keeps draft.registry) :
    draft.add call.config = (.ok (), draft.extended call.wanted) := by
  rw [h.config_eq]
  refine RegistryDraft.add_of_get?_none (Option.not_isSome_iff_eq_none.1 fun hsome => ?_)
  exact h.free (KeyMap.mem_keys_iff.2 hsome)

/-- A call that breaks a rule is refused with the error that says so. -/
theorem Breaks.add {error : PoolError} (h : Breaks draft.registry call error) :
    draft.add call.config = (.error error, draft) := by
  cases h with
  | lists hlists =>
      rw [config, PoolRequest.config, Target.ofLists, if_neg hlists]
      rfl
  | sizes hlists hwanted hsizes =>
      subst hwanted
      rw [config_of_matched hlists, PoolConfig.checked, if_pos hsizes]
      rfl
  | duplicate hlists hsizes hkey =>
      rw [config_of_matched hlists, PoolConfig.checked, if_neg (Nat.not_lt.2 hsizes)]
      exact RegistryDraft.add_of_contains (KeyMap.mem_keys_iff.1 hkey)

end RegisterCall

/-! ## Calls one after another -/

/-- The draft after calls, each made whatever the ones before it were answered. -/
def RegistryDraft.afterCalls (calls : List RegisterCall) : RegistryDraft :=
  calls.foldl (fun draft call => (draft.add call.config).2) {}

namespace RegisterCall

open RegistryDraft (afterCalls)

/-- What a call is answered that is made after others. -/
def reply (before : List RegisterCall) (call : RegisterCall) : Status :=
  ((afterCalls before).add call.config).1

/-- Whether a call is the first of all that is accepted for its key. -/
def IsFirst (calls : List RegisterCall) (call : RegisterCall) : Prop :=
  ∃ before after, calls = before ++ call :: after ∧ reply before call = .ok () ∧
    ∀ front other back, before = front ++ other :: back → other.key = call.key →
      reply front other ≠ .ok ()

variable {calls before : List RegisterCall} {call : RegisterCall} {key : PoolKey}
  {config : PoolConfig}

theorem afterCalls_snoc (calls : List RegisterCall) (call : RegisterCall) :
    afterCalls (calls ++ [call]) = ((afterCalls calls).add call.config).2 := by
  rw [afterCalls, List.foldl_append]
  rfl

/-- A call is accepted just if it breaks no rule. -/
theorem reply_eq_ok_iff : reply calls call = .ok () ↔ call.Keeps (afterCalls calls).registry := by
  constructor
  · intro hok
    rcases keeps_or_breaks (afterCalls calls).registry call with hkeeps | ⟨error, hbreaks⟩
    · exact hkeeps
    · rw [reply, hbreaks.add] at hok
      cases hok
  · intro hkeeps
    rw [reply, hkeeps.add]

/-- A call is refused for the first rule that it breaks. -/
theorem reply_eq_error_iff {error : PoolError} :
    reply calls call = .error error ↔ Breaks (afterCalls calls).registry call error := by
  constructor
  · intro herror
    rcases keeps_or_breaks (afterCalls calls).registry call with hkeeps | ⟨cause, hbreaks⟩
    · rw [reply, hkeeps.add] at herror
      cases herror
    · rw [reply, hbreaks.add] at herror
      exact Except.error.inj herror ▸ hbreaks
  · intro hbreaks
    rw [reply, hbreaks.add]

theorem afterCalls_of_ok (h : reply calls call = .ok ()) :
    afterCalls (calls ++ [call]) = (afterCalls calls).extended call.wanted := by
  rw [afterCalls_snoc, (reply_eq_ok_iff.1 h).add]

theorem afterCalls_of_error {error : PoolError} (h : reply calls call = .error error) :
    afterCalls (calls ++ [call]) = afterCalls calls := by
  rw [afterCalls_snoc, (reply_eq_error_iff.1 h).add]

/-- What a call leaves under a key: what it asks for, if it is accepted for that
    key, and else what was there. -/
theorem get?_afterCalls_snoc :
    (afterCalls (calls ++ [call])).registry.get? key = some config ↔
      (reply calls call = .ok () ∧ call.key = key ∧ call.wanted = config) ∨
        (afterCalls calls).registry.get? key = some config := by
  cases hreply : reply calls call with
  | error error =>
      rw [afterCalls_of_error hreply]
      exact ⟨.inr, fun h => h.resolve_left fun hlast => nomatch hlast.1⟩
  | ok done =>
      have hfree := (reply_eq_ok_iff.1 hreply).free
      have hget : (afterCalls (calls ++ [call])).registry.get? key =
          if key = call.key then some call.wanted else (afterCalls calls).registry.get? key := by
        rw [afterCalls_of_ok hreply]
        exact KeyMap.get?_insert _ _ _ _
      rw [hget]
      by_cases hkey : key = call.key
      · -- the key was free, so nothing was under it
        have hnone : (afterCalls calls).registry.get? key = none :=
          Option.not_isSome_iff_eq_none.1 fun hsome =>
            hfree (hkey ▸ KeyMap.mem_keys_iff.2 hsome)
        rw [if_pos hkey, hnone]
        constructor
        · exact fun h => .inl ⟨rfl, hkey.symm, Option.some.inj h⟩
        · rintro (⟨-, -, rfl⟩ | h)
          · rfl
          · cases h
      · rw [if_neg hkey]
        exact ⟨.inr, fun h => h.resolve_left fun hlast => hkey hlast.2.1.symm⟩

/-- What is under a key stays there. -/
theorem get?_afterCalls_append (h : (afterCalls before).registry.get? key = some config)
    (after : List RegisterCall) :
    (afterCalls (before ++ after)).registry.get? key = some config := by
  induction after using List.reverseRecOn with
  | nil => rwa [List.append_nil]
  | append_singleton after call ih =>
      rw [← List.append_assoc]
      exact get?_afterCalls_snoc.2 (.inr ih)

/-- What an accepted call asks for is under its key from then on. -/
theorem get?_of_reply_eq_ok (h : reply before call = .ok ()) (after : List RegisterCall) :
    (afterCalls (before ++ call :: after)).registry.get? call.key = some call.wanted := by
  rw [List.append_cons]
  exact get?_afterCalls_append (get?_afterCalls_snoc.2 (.inl ⟨h, rfl, rfl⟩)) after

/-- An accepted call is the first one accepted for its key. -/
theorem isFirst_of_reply_eq_ok (h : reply before call = .ok ()) (after : List RegisterCall) :
    IsFirst (before ++ call :: after) call := by
  refine ⟨before, after, rfl, h, fun front other back hbefore hkey hother => ?_⟩
  -- an earlier one would have taken the key
  have htaken := get?_of_reply_eq_ok hother back
  rw [← hbefore, hkey] at htaken
  exact (reply_eq_ok_iff.1 h).free (KeyMap.mem_keys_iff.2 (htaken ▸ rfl))

theorem IsFirst.append (h : IsFirst calls call) (more : List RegisterCall) :
    IsFirst (calls ++ more) call := by
  obtain ⟨before, after, rfl, hok, -⟩ := h
  rw [List.append_assoc, List.cons_append]
  exact isFirst_of_reply_eq_ok hok (after ++ more)

/-- Under each key is what the first call accepted for it asks for. -/
theorem get?_afterCalls_iff :
    (afterCalls calls).registry.get? key = some config ↔
      ∃ call, IsFirst calls call ∧ call.key = key ∧ call.wanted = config := by
  constructor
  · -- over the calls, of which the last is accepted for the key or is not
    induction calls using List.reverseRecOn with
    | nil => exact nofun
    | append_singleton calls call ih =>
        intro h
        rcases get?_afterCalls_snoc.1 h with ⟨hok, hkey, hwanted⟩ | h
        · exact ⟨call, isFirst_of_reply_eq_ok hok [], hkey, hwanted⟩
        · obtain ⟨other, hfirst, hother⟩ := ih h
          exact ⟨other, hfirst.append [call], hother⟩
  · rintro ⟨call, ⟨before, after, rfl, hok, -⟩, rfl, rfl⟩
    exact get?_of_reply_eq_ok hok after

/-- The first pool has its sizes in disorder, and the last one comes too late. -/
example :
    let calls := [.uri "k" 5 2 "a", .uri "k" 0 0 "b", .built "k" (.uri "c") 1 1 2]
    (afterCalls calls).registry.get? "k" = some (.defaulted "k" (.uri "b") 0 0 0) := by
  decide

/-! ## The registry afterwards -/

/-- The ceiling as it is given. -/
def ceiling : RegisterCall → Nat
  | uri _ _ maxSize _ | params _ _ maxSize _ _ _ | built _ _ _ maxSize _ => maxSize

theorem wanted_maxSize (call : RegisterCall) :
    call.wanted.maxSize = if call.ceiling = 0 then 10 else call.ceiling := by
  cases call with
  | uri | params | built => rfl

theorem IsFirst.mem (h : IsFirst calls call) : call ∈ calls := by
  obtain ⟨before, after, rfl, -⟩ := h
  exact List.mem_append_right before List.mem_cons_self

theorem IsFirst.sized (h : IsFirst calls call) : call.wanted.Sized := by
  obtain ⟨before, after, -, hok, -⟩ := h
  exact (reply_eq_ok_iff.1 hok).sized

theorem sized_of_get? (h : (afterCalls calls).registry.get? key = some config) :
    config.Sized := by
  obtain ⟨call, hfirst, -, rfl⟩ := get?_afterCalls_iff.1 h
  exact hfirst.sized

/-- Pools whose ceilings were given as 64-bit numbers do not outgrow these. -/
theorem add_growth_lt (hfits : ∀ call ∈ calls, call.ceiling < UInt64.size)
    (h : (afterCalls calls).registry.get? key = some config) {size : Nat}
    (hsize : size ≤ config.maxSize) : size + config.growth size < UInt64.size := by
  obtain ⟨call, hfirst, -, rfl⟩ := get?_afterCalls_iff.1 h
  have hceiling : call.wanted.maxSize < UInt64.size := by
    rw [wanted_maxSize]
    split
    · decide
    · exact hfits call hfirst.mem
  exact Nat.lt_of_le_of_lt (PoolConfig.add_growth_le hsize) hceiling

/-- What a registry that calls have filled holds and lists. -/
structure Fills (calls : List RegisterCall) (registry : Registry) : Prop where
  get?_iff : ∀ key config, registry.get? key = some config ↔
    ∃ call, IsFirst calls call ∧ call.key = key ∧ call.wanted = config
  mem_keys_iff : ∀ key, key ∈ registry.keys ↔ ∃ call, IsFirst calls call ∧ call.key = key
  sorted_keys : registry.keys.Pairwise fun key other => utf8Bytes key < utf8Bytes other
  length_keys : registry.keys.length = registry.size
  sized : ∀ key config, registry.get? key = some config → config.Sized
  grows : ∀ key config, registry.get? key = some config →
    ∀ size ≤ config.maxSize, config.Grows size
  fits : (∀ call ∈ calls, call.ceiling < UInt64.size) →
    ∀ key config, registry.get? key = some config →
      ∀ size ≤ config.maxSize, size + config.growth size < UInt64.size

/-- How a call is answered that is made after others, and what it changes then. -/
structure Answered (calls : List RegisterCall) (call : RegisterCall) : Prop where
  accepted_iff : reply calls call = .ok () ↔ call.Keeps (afterCalls calls).registry
  refused_iff : ∀ error,
    reply calls call = .error error ↔ Breaks (afterCalls calls).registry call error
  unchanged : ∀ error, reply calls call = .error error →
    afterCalls (calls ++ [call]) = afterCalls calls

/-- A registry that any calls have filled holds under each key what the first call
    accepted for it asks for, and lists these keys in byte order; whatever it
    holds has sizes in order and grows as it should.  The next call is accepted or
    refused by the rules, and changes nothing if it is refused. -/
theorem fills_afterCalls (calls : List RegisterCall) :
    Fills calls (afterCalls calls).registry ∧ ∀ call, Answered calls call := by
  refine ⟨?_, fun call => ⟨reply_eq_ok_iff, fun _ => reply_eq_error_iff, fun _ =>
    afterCalls_of_error⟩⟩
  constructor
  case get?_iff => exact fun key config => get?_afterCalls_iff
  case mem_keys_iff =>
    intro key
    rw [KeyMap.mem_keys_iff, Option.isSome_iff_exists]
    simp only [get?_afterCalls_iff]
    constructor
    · rintro ⟨_, call, hfirst, hkey, -⟩
      exact ⟨call, hfirst, hkey⟩
    · rintro ⟨call, hfirst, hkey⟩
      exact ⟨_, call, hfirst, hkey, rfl⟩
  case sorted_keys => exact (KeyMap.sorted_keys _).imp utf8Bytes_lt_iff.2
  case length_keys => exact List.length_map _
  case sized => exact fun key config => sized_of_get?
  case grows => exact fun key config hget size hsize => (sized_of_get? hget).grows hsize
  case fits => exact fun hfits key config hget size hsize => add_growth_lt hfits hget hsize

end RegisterCall
end ConnPool
