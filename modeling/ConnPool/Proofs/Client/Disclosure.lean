/-
  ConnPool.Proofs.Client.Disclosure

  What the refusal of a parameter tells about the values of the parameters.

  Two lists of parameters of one form have the same keys, and zero bytes in the
  same values.  Either both are refused or neither is, and both for the value at
  the same place.  But a refusal tells the text that it is for, so two lists of
  one form are refused alike just if that value is the same in both; and so are
  the log records of the two starts.
-/

import ConnPool.Client.Scripted
import ConnPool.Proofs.Client.Marshalling

namespace ConnPool
namespace Client

/-! ## The text of a refusal -/

theorem nulRefusal_inj {text text' : String} : nulRefusal text = nulRefusal text' ↔ text = text' := by
  constructor
  · intro h
    have hreason := ClientError.invalidArgument.inj h
    exact (String.append_right_inj _).1 ((String.append_left_inj _).1 hreason)
  · rintro rfl
    rfl

/-- The log record of a start that is refused for a parameter, which tells the
    parameter too. -/
theorem refusal_inj {target target' : Target} {text text' : String}
    (htarget : target.kind = target'.kind) :
    refusal target (nulRefusal text) = refusal target' (nulRefusal text') ↔ text = text' := by
  constructor
  · intro h
    have hmessage := (LogRecord.clientUnavailable.inj h).2
    exact nulRefusal_inj.1 (congrArg ClientError.invalidArgument
      ((String.append_right_inj _).1 hmessage))
  · rintro rfl
    rw [refusal, refusal, htarget]

/-! ## Lists of one form -/

/-- Whether two lists of parameters have the same keys, without zero bytes, and
    zero bytes in the same values. -/
structure OfOneForm (pairs pairs' : List (String × String)) : Prop where
  keys : pairs.map Prod.fst = pairs'.map Prod.fst
  clean : ∀ key ∈ pairs.map Prod.fst, hasNul key = false
  values : pairs.map (fun pair => hasNul pair.2) = pairs'.map (fun pair => hasNul pair.2)

/-- Whether the value at a place is the first one with a zero byte. -/
structure FirstAt (pairs : List (String × String)) (place : Nat) (value : String) : Prop where
  found : (pairs.map Prod.snd)[place]? = some value
  holdsNul : hasNul value = true
  before : ∀ other ∈ (pairs.map Prod.snd).take place, hasNul other = false

/-- Lists in which the same items have a property have the first such item at
    the same place. -/
theorem find?_alike {α : Type} {p : α → Bool} {xs ys : List α} (h : xs.map p = ys.map p) :
    (xs.find? p = none ∧ ys.find? p = none) ∨
      ∃ place x y, xs.find? p = some x ∧ ys.find? p = some y ∧
        xs[place]? = some x ∧ ys[place]? = some y ∧
        (∀ other ∈ xs.take place, p other = false) ∧ ∀ other ∈ ys.take place, p other = false := by
  induction xs generalizing ys with
  | nil =>
      obtain rfl := List.map_eq_nil_iff.1 h.symm
      exact .inl ⟨rfl, rfl⟩
  | cons x xs ih =>
      cases ys with
      | nil => cases h
      | cons y ys =>
          obtain ⟨hhead, htail⟩ := List.cons.inj h
          cases hx : p x with
          | true =>
              have hy : p y = true := hhead.symm.trans hx
              exact .inr ⟨0, x, y, List.find?_cons_of_pos hx, List.find?_cons_of_pos hy, rfl, rfl,
                List.forall_mem_nil _, List.forall_mem_nil _⟩
          | false =>
              have hy : p y = false := hhead.symm.trans hx
              rw [List.find?_cons_of_neg (Bool.eq_false_iff.1 hx),
                List.find?_cons_of_neg (Bool.eq_false_iff.1 hy)]
              refine (ih htail).imp_right ?_
              rintro ⟨place, a, b, ha, hb, hxs, hys, hfirst, hfirst'⟩
              exact ⟨place + 1, a, b, ha, hb, hxs, hys, List.forall_mem_cons.2 ⟨hx, hfirst⟩,
                List.forall_mem_cons.2 ⟨hy, hfirst'⟩⟩

/-- Lists of one form are refused for the values at the same place, if at
    all. -/
theorem OfOneForm.firstWithNul {pairs pairs' : List (String × String)} (h : OfOneForm pairs pairs') :
    (firstWithNul pairs = none ∧ Client.firstWithNul pairs' = none) ∨
      ∃ place value value', FirstAt pairs place value ∧ FirstAt pairs' place value' ∧
        Client.firstWithNul pairs = some value ∧ Client.firstWithNul pairs' = some value' := by
  have hkeys : (pairs.map Prod.fst).find? hasNul = none := find?_hasNul_eq_none_iff.2 h.clean
  have hkeys' : (pairs'.map Prod.fst).find? hasNul = none := h.keys ▸ hkeys
  have hvalues : (pairs.map Prod.snd).map hasNul = (pairs'.map Prod.snd).map hasNul := by
    rw [List.map_map, List.map_map]
    exact h.values
  rw [Client.firstWithNul, Client.firstWithNul, hkeys, hkeys', Option.none_or, Option.none_or]
  refine (find?_alike hvalues).imp_right ?_
  rintro ⟨place, value, value', hfirst, hfirst', hvalue, hvalue', hbefore, hbefore'⟩
  exact ⟨place, value, value', ⟨hvalue, List.find?_some hfirst, hbefore⟩,
    ⟨hvalue', List.find?_some hfirst', hbefore'⟩, hfirst, hfirst'⟩

theorem checkHandle_ne_invalidArgument (returned : Option Handle) (reason : String) :
    checkHandle returned ≠ .error (.invalidArgument reason) := by
  cases returned with
  | some handle => simp [checkHandle]
  | none => simp [checkHandle]

variable {σ σ' : Type} [Api σ] [Api σ']

theorem startPairs_ne_invalidArgument {pairs : List (String × String)}
    (h : Client.firstWithNul pairs = none) (expandDbname : Bool) (library : σ) (reason : String) :
    ((startPairs pairs expandDbname).run library).1 ≠ .error (.invalidArgument reason) := by
  obtain ⟨keywords, values, -, -, hstart⟩ := startPairs_of_none (σ := σ) h expandDbname
  rw [hstart]
  exact checkHandle_ne_invalidArgument _ reason

/-- Of two lists of one form, either neither is refused for one of its texts, or
    both are, for the values at the same place.  The refusals, and the log records
    of the two starts, are the same just if these values are. -/
theorem refusals_eq_iff {pairs pairs' : List (String × String)} (h : OfOneForm pairs pairs')
    (expandDbname expandDbname' : Bool) (library : σ) (library' : σ') :
    ((∀ reason, ((startPairs pairs expandDbname).run library).1 ≠
          .error (.invalidArgument reason)) ∧
        ∀ reason, ((startPairs pairs' expandDbname').run library').1 ≠
          .error (.invalidArgument reason)) ∨
      ∃ place value value', FirstAt pairs place value ∧ FirstAt pairs' place value' ∧
        ((startPairs pairs expandDbname).run library).1 = .error (nulRefusal value) ∧
        ((startPairs pairs' expandDbname').run library').1 = .error (nulRefusal value') ∧
        (nulRefusal value = nulRefusal value' ↔ value = value') ∧
        ((startSession (.params pairs expandDbname)).run library).1 =
          .error (.clientUnavailable "params" (nulRefusal value).message) ∧
        ((startSession (.params pairs' expandDbname')).run library').1 =
          .error (.clientUnavailable "params" (nulRefusal value').message) ∧
        (LogRecord.clientUnavailable "params" (nulRefusal value).message =
          .clientUnavailable "params" (nulRefusal value').message ↔ value = value') := by
  rcases h.firstWithNul with ⟨hnone, hnone'⟩ | ⟨place, value, value', hvalue, hvalue', hfirst, hfirst'⟩
  · exact .inl ⟨startPairs_ne_invalidArgument hnone expandDbname library,
      startPairs_ne_invalidArgument hnone' expandDbname' library'⟩
  · have hrefused : (startPairs pairs expandDbname).run library =
        (.error (nulRefusal value), library) := by
      rw [startPairs_of_firstWithNul hfirst]
      rfl
    have hrefused' : (startPairs pairs' expandDbname').run library' =
        (.error (nulRefusal value'), library') := by
      rw [startPairs_of_firstWithNul hfirst']
      rfl
    refine .inr ⟨place, value, value', hvalue, hvalue', congrArg Prod.fst hrefused,
      congrArg Prod.fst hrefused', nulRefusal_inj, ?_, ?_, ?_⟩
    · rw [startSession_params, hrefused]
      rfl
    · rw [startSession_params, hrefused']
      rfl
    · have hkind : (Target.params pairs expandDbname).kind =
          (Target.params pairs' expandDbname').kind := rfl
      exact refusal_inj hkind

/-- The passwords differ, and neither can be handed over. -/
theorem refusals_eq_iff_of_passwords :
    OfOneForm [("host", "h"), ("password", "a\x00")] [("host", "g"), ("password", "b\x00")] ∧
      ∃ place value value',
        FirstAt [("host", "h"), ("password", "a\x00")] place value ∧
        FirstAt [("host", "g"), ("password", "b\x00")] place value' ∧
        (nulRefusal value = nulRefusal value' ↔ value = value') := by
  have h : OfOneForm [("host", "h"), ("password", "a\x00")]
      [("host", "g"), ("password", "b\x00")] := by
    constructor
    case keys => rfl
    case clean => decide
    case values => decide
  rcases refusals_eq_iff h false false ({} : Script) ({} : Script) with
    ⟨hnone, -⟩ | ⟨place, value, value', hvalue, hvalue', -, -, hiff, -⟩
  · exact absurd rfl (hnone _)
  · exact ⟨h, place, value, value', hvalue, hvalue', hiff⟩

/-- A password that cannot be handed over is told by its refusal, and by the log
    record of the start. -/
theorem refusals_ne_of_passwords :
    OfOneForm [("password", "a\x00")] [("password", "b\x00")] ∧
      ((startPairs [("password", "a\x00")] false).run ({} : Script)).1 =
        .error (.invalidArgument "parameter `a\x00` contains a NUL byte") ∧
      ((startPairs [("password", "b\x00")] false).run ({} : Script)).1 ≠
        .error (.invalidArgument "parameter `a\x00` contains a NUL byte") ∧
      ((startSession (.params [("password", "a\x00")] false)).run ({} : Script)).1 ≠
        ((startSession (.params [("password", "b\x00")] false)).run ({} : Script)).1 := by
  have hne : ("a\x00" : String) ≠ "b\x00" := by decide
  refine ⟨⟨rfl, by decide, by decide⟩, rfl, ?_, ?_⟩
  · intro heq
    exact hne.symm (nulRefusal_inj.1 (Except.error.inj heq))
  · intro heq
    have hkind : (Target.params [("password", "a\x00")] false).kind =
        (Target.params [("password", "b\x00")] false).kind := rfl
    exact hne ((refusal_inj hkind).1 (Except.error.inj heq))

end Client
end ConnPool
