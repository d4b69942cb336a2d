/-
  ConnPool.Proofs.Client.Marshalling

  How parameters are handed to the database client.

  To tell what the client is asked, every call of its functions is recorded with
  its arguments as they stand in memory (`Observed`); nothing is assumed about
  what the functions return.  An array of pointers hands over texts if reading
  it as C does gives back their bytes and stays within memory (`HandsOver`).

      some text holds a zero byte    refused for the first such key, or else the
                                     first such value; nothing is called
      otherwise                      one call, which is handed all keys and all
                                     values in order
-/

import ConnPool.Client.Session
import ConnPool.Proofs.Text.ByteOrder

namespace ConnPool
namespace Client

/-! ## Memory -/

/-- Whether an array of pointers can be read: it has a null pointer, and the
    texts before it have zero bytes. -/
inductive Closed : List (Option CText) → Prop
  | null (rest : List (Option CText)) : Closed (none :: rest)
  | text {memory : CText} {rest : List (Option CText)} (hend : 0 ∈ memory) (hrest : Closed rest) :
      Closed (some memory :: rest)

/-- Whether C reads these texts, and no others, from an array of pointers. -/
structure HandsOver (pointers : List (Option CText)) (texts : List String) : Prop where
  closed : Closed pointers
  reads : readTexts pointers = texts.map utf8Bytes

/-- No other texts are handed over along with some. -/
theorem HandsOver.iff_eq {pointers : List (Option CText)} {texts : List String}
    (h : HandsOver pointers texts) (texts' : List String) :
    HandsOver pointers texts' ↔ texts' = texts := by
  constructor
  · intro h'
    have hbytes : texts'.map utf8Bytes = texts.map utf8Bytes := h'.reads.symm.trans h.reads
    exact (List.map_inj_right fun _ _ => utf8Bytes_injective).1 hbytes
  · rintro rfl
    exact h

theorem cText?_of_hasNul {text : String} (h : hasNul text = true) : cText? text = none :=
  if_pos h

theorem cText?_of_not_hasNul {text : String} (h : hasNul text = false) :
    cText? text = some (utf8Bytes text ++ [0]) :=
  if_neg (Bool.eq_false_iff.1 h)

/-- Texts without zero bytes, each closed by one, make up an array that hands
    them over. -/
theorem handsOver_terminated {texts : List String} (h : ∀ text ∈ texts, hasNul text = false) :
    HandsOver (terminated (texts.map (utf8Bytes · ++ [0]))) texts := by
  constructor
  case closed =>
    induction texts with
    | nil => exact .null []
    | cons text rest ih =>
        obtain ⟨-, hrest⟩ := List.forall_mem_cons.1 h
        exact .text (List.mem_append_right _ List.mem_cons_self) (ih hrest)
  case reads =>
    rw [readTexts_terminated, List.map_map]
    refine List.map_congr_left fun text hmem => ?_
    exact readText_of_cText? (cText?_of_not_hasNul (h text hmem))

/-! ## Calls -/

/-- A call of one of the client's functions: its arguments, as they stand in
    memory, and what it returned. -/
inductive ApiCall where
  | connectStart (conninfo : CText) (returned : Option Handle)
  | connectStartParams (keywords values : List (Option CText)) (expandDbname : Int)
      (returned : Option Handle)
  | connectPoll (handle : Handle) (returned : Int)
  | status (handle : Handle) (returned : Int)
  | errorMessage (handle : Handle) (returned : Option CText)
  | socket (handle : Handle) (returned : Int)
  | setNonblocking (handle : Handle) (on returned : Int)
  | finish (handle : Handle)

/-- A client library, and the calls of its functions so far. -/
structure Observed (σ : Type) where
  library : σ
  calls : List ApiCall := []

/-- Calls a function of the library, and records the call. -/
def Observed.observe {σ α : Type} (function : StateM σ α) (call : α → ApiCall) :
    StateM (Observed σ) α := fun observed =>
  let (returned, library) := function.run observed.library
  (returned, { library, calls := observed.calls ++ [call returned] })

variable {σ : Type} [Api σ]

instance : Api (Observed σ) where
  connectStart conninfo := Observed.observe (Api.connectStart conninfo) (.connectStart conninfo)
  connectStartParams keywords values expandDbname :=
    Observed.observe (Api.connectStartParams keywords values expandDbname)
      (.connectStartParams keywords values expandDbname)
  connectPoll handle := Observed.observe (Api.connectPoll handle) (.connectPoll handle)
  status handle := Observed.observe (Api.status handle) (.status handle)
  errorMessage handle := Observed.observe (Api.errorMessage handle) (.errorMessage handle)
  socket handle := Observed.observe (Api.socket handle) (.socket handle)
  setNonblocking handle on :=
    Observed.observe (Api.setNonblocking handle on) (.setNonblocking handle on)
  finish handle := Observed.observe (Api.finish handle) fun () => .finish handle

/-! ## Parameters -/

/-- The refusal of a parameter text that holds a zero byte. -/
def nulRefusal (text : String) : ClientError :=
  .invalidArgument s!"parameter `{text}` contains a NUL byte"

/-- The first parameter text that cannot be handed over: of the keys, or else of
    the values. -/
def firstWithNul (pairs : List (String × String)) : Option String :=
  ((pairs.map Prod.fst).find? hasNul).or ((pairs.map Prod.snd).find? hasNul)

theorem parameters_of_find? {texts : List String} {text : String}
    (h : texts.find? hasNul = some text) : parameters texts = .error (nulRefusal text) := by
  induction texts with
  | nil => cases h
  | cons first rest ih =>
      rw [parameters, parameter]
      cases hfirst : hasNul first with
      | true =>
          rw [List.find?_cons_of_pos hfirst] at h
          obtain rfl := Option.some.inj h
          rw [cText?_of_hasNul hfirst]
          rfl
      | false =>
          rw [List.find?_cons_of_neg (by rw [hfirst]; exact Bool.false_ne_true)] at h
          rw [cText?_of_not_hasNul hfirst, ih h]

theorem parameters_of_forall {texts : List String} (h : ∀ text ∈ texts, hasNul text = false) :
    parameters texts = .ok (texts.map (utf8Bytes · ++ [0])) := by
  induction texts with
  | nil => rfl
  | cons first rest ih =>
      obtain ⟨hfirst, hrest⟩ := List.forall_mem_cons.1 h
      rw [parameters, parameter, cText?_of_not_hasNul hfirst, ih hrest]
      rfl

theorem find?_hasNul_eq_none_iff {texts : List String} :
    texts.find? hasNul = none ↔ ∀ text ∈ texts, hasNul text = false := by
  simp only [List.find?_eq_none, Bool.not_eq_true]

theorem firstWithNul_eq_none_iff {pairs : List (String × String)} :
    firstWithNul pairs = none ↔ ∀ pair ∈ pairs, hasNul pair.1 = false ∧ hasNul pair.2 = false := by
  rw [firstWithNul, Option.or_eq_none_iff, find?_hasNul_eq_none_iff, find?_hasNul_eq_none_iff,
    List.forall_mem_map, List.forall_mem_map]
  exact ⟨fun h pair hmem => ⟨h.1 pair hmem, h.2 pair hmem⟩,
    fun h => ⟨fun pair hmem => (h pair hmem).1, fun pair hmem => (h pair hmem).2⟩⟩

/-- Where some text holds a zero byte, the first one is refused. -/
theorem startPairs_of_firstWithNul {pairs : List (String × String)} {text : String}
    (h : firstWithNul pairs = some text) (expandDbname : Bool) :
    (startPairs pairs expandDbname : StateM σ _) = pure (.error (nulRefusal text)) := by
  rw [startPairs]
  cases hkeys : (pairs.map Prod.fst).find? hasNul with
  | some key =>
      rw [firstWithNul, hkeys] at h
      obtain rfl : key = text := Option.some.inj h
      rw [parameters_of_find? hkeys]
  | none =>
      rw [firstWithNul, hkeys, Option.none_or] at h
      rw [parameters_of_forall (find?_hasNul_eq_none_iff.1 hkeys), parameters_of_find? h]

/-- Otherwise all are handed over. -/
theorem startPairs_of_none {pairs : List (String × String)} (h : firstWithNul pairs = none)
    (expandDbname : Bool) :
    ∃ keywords values, HandsOver keywords (pairs.map Prod.fst) ∧
      HandsOver values (pairs.map Prod.snd) ∧
      (startPairs pairs expandDbname : StateM σ _) =
        checkHandle <$> Api.connectStartParams keywords values (if expandDbname then 1 else 0) := by
  obtain ⟨hkeys, hvalues⟩ := Option.or_eq_none_iff.1 h
  rw [find?_hasNul_eq_none_iff] at hkeys hvalues
  refine ⟨_, _, handsOver_terminated hkeys, handsOver_terminated hvalues, ?_⟩
  rw [startPairs, parameters_of_forall hkeys, parameters_of_forall hvalues]

/-- A session is started towards parameters if a connection is. -/
theorem startSession_params (pairs : List (String × String)) (expandDbname : Bool) (library : σ) :
    (startSession (.params pairs expandDbname)).run library =
      ((((startPairs pairs expandDbname).run library).1).mapError
        (refusal (.params pairs expandDbname)), ((startPairs pairs expandDbname).run library).2) := by
  rw [startSession, StateT.run_bind, startTarget]
  rcases (startPairs pairs expandDbname).run library with ⟨outcome, after⟩
  cases outcome with
  | ok handle => rfl
  | error e => rfl

/-- How a start from parameters goes, from one state of the client to another. -/
structure Marshals (pairs : List (String × String)) (expandDbname : Bool)
    (before : Observed σ) (outcome : Except ClientError Handle) (after : Observed σ) : Prop where
  /-- Nothing is called if one of the texts cannot be handed over. -/
  rejected : ∀ text, firstWithNul pairs = some text →
    outcome = .error (nulRefusal text) ∧ after = before
  /-- Else one call is handed all of them, and what it returns is answered. -/
  called : (∀ pair ∈ pairs, hasNul pair.1 = false ∧ hasNul pair.2 = false) →
    ∃ keywords values returned,
      (∀ keys, HandsOver keywords keys ↔ keys = pairs.map Prod.fst) ∧
      (∀ texts, HandsOver values texts ↔ texts = pairs.map Prod.snd) ∧
      (readTexts keywords).length = (readTexts values).length ∧
      (Api.connectStartParams keywords values (if expandDbname then 1 else 0)).run before.library =
        (returned, after.library) ∧
      after.calls = before.calls ++
        [.connectStartParams keywords values (if expandDbname then 1 else 0) returned] ∧
      outcome = checkHandle returned

theorem marshals_of_run {pairs : List (String × String)} {expandDbname : Bool}
    {before after : Observed σ} {outcome : Except ClientError Handle}
    (h : (startPairs pairs expandDbname).run before = (outcome, after)) :
    Marshals pairs expandDbname before outcome after := by
  constructor
  case rejected =>
    intro text hfirst
    rw [startPairs_of_firstWithNul hfirst] at h
    obtain ⟨rfl, rfl⟩ := Prod.mk.inj h
    exact ⟨rfl, rfl⟩
  case called =>
    intro hall
    obtain ⟨keywords, values, hkeys, hvalues, hstart⟩ :=
      startPairs_of_none (σ := Observed σ) (firstWithNul_eq_none_iff.2 hall) expandDbname
    have hlength : (readTexts keywords).length = (readTexts values).length := by
      rw [hkeys.reads, hvalues.reads, List.length_map, List.length_map, List.length_map,
        List.length_map]
    rw [hstart] at h
    obtain ⟨rfl, rfl⟩ := Prod.mk.inj h
    exact ⟨keywords, values, _, hkeys.iff_eq, hvalues.iff_eq, hlength, rfl, rfl, rfl⟩

namespace Marshals

variable {pairs : List (String × String)} {expandDbname : Bool} {before after : Observed σ}
  {outcome : Except ClientError Handle}

/-- There is no memory just if the client was called and returned null. -/
theorem outOfMemory_iff (h : Marshals pairs expandDbname before outcome after) :
    outcome = .error .outOfMemory ↔ ∃ keywords values,
      after.calls = before.calls ++
        [.connectStartParams keywords values (if expandDbname then 1 else 0) none] := by
  cases hfirst : firstWithNul pairs with
  | some text =>
      obtain ⟨rfl, rfl⟩ := h.rejected text hfirst
      simp [nulRefusal]
  | none =>
      obtain ⟨keywords, values, returned, -, -, -, -, hcalls, rfl⟩ :=
        h.called (firstWithNul_eq_none_iff.1 hfirst)
      rw [hcalls]
      cases returned <;> simp [checkHandle]

/-- A handle is answered just if the client was called and returned it. -/
theorem ok_iff (h : Marshals pairs expandDbname before outcome after) (handle : Handle) :
    outcome = .ok handle ↔ (∀ pair ∈ pairs, hasNul pair.1 = false ∧ hasNul pair.2 = false) ∧
      ∃ keywords values, after.calls = before.calls ++
        [.connectStartParams keywords values (if expandDbname then 1 else 0) (some handle)] := by
  rw [← firstWithNul_eq_none_iff]
  cases hfirst : firstWithNul pairs with
  | some text =>
      obtain ⟨rfl, rfl⟩ := h.rejected text hfirst
      simp
  | none =>
      obtain ⟨keywords, values, returned, -, -, -, -, hcalls, rfl⟩ :=
        h.called (firstWithNul_eq_none_iff.1 hfirst)
      rw [hcalls]
      cases returned <;> simp [checkHandle]

end Marshals

/-- A start from parameters calls the client once, with all keys and all values
    in order, unless one of them holds a zero byte: then it calls nothing and is
    refused for the first such key, or else the first such value.  There is no
    memory just if that call, which is the only one, returned null, and there is
    a session just if it was made and returned a handle. -/
theorem startPairs_faithful (pairs : List (String × String)) (expandDbname : Bool)
    (before : Observed σ) :
    ∃ outcome after, (startPairs pairs expandDbname).run before = (outcome, after) ∧
      Marshals pairs expandDbname before outcome after ∧
      (outcome = .error .outOfMemory ↔ ∃ keywords values,
        after.calls = before.calls ++
          [.connectStartParams keywords values (if expandDbname then 1 else 0) none]) ∧
      ∀ handle, (startSession (.params pairs expandDbname)).run before = (.ok handle, after) ↔
        (∀ pair ∈ pairs, hasNul pair.1 = false ∧ hasNul pair.2 = false) ∧
          ∃ keywords values, after.calls = before.calls ++
            [.connectStartParams keywords values (if expandDbname then 1 else 0)
              (some handle)] := by
  rcases hrun : (startPairs pairs expandDbname).run before with ⟨outcome, after⟩
  have hmarshals := marshals_of_run hrun
  refine ⟨outcome, after, rfl, hmarshals, hmarshals.outOfMemory_iff, fun handle => ?_⟩
  rw [← hmarshals.ok_iff handle, startSession_params, hrun]
  cases outcome with
  | ok other =>
      constructor
      · rintro ⟨⟩
        rfl
      · rintro ⟨⟩
        rfl
  | error e =>
      constructor
      · rintro ⟨⟩
      · rintro ⟨⟩

end Client
end ConnPool
