import PeripheralBridge.Proofs.CallGuard

/-!
# How links classify failures

A link that was too slow, or whose port would have had to wait, reports a timeout. At none of the
places where input or output can fail does a link report such a failure as anything else, whatever
its pipe or port does and in whatever state it is.
-/

namespace PeripheralBridge

variable {σ ε δ α β : Type}

namespace Attempt

/-- Whatever the attempt fails with has the property. -/
def FailsOnly (P : ε → Prop) (x : Attempt σ ε α) : Prop := ∀ s e, (x s).1 = .error e → P e

namespace FailsOnly

variable {P : ε → Prop} {x : Attempt σ ε α} {f : α → Attempt σ ε β}

theorem pure (a : α) : FailsOnly P (Pure.pure a : Attempt σ ε α) := by
  intro s e failed
  cases failed

theorem bind (first : FailsOnly P x) (next : ∀ a, FailsOnly P (f a)) : FailsOnly P (x >>= f) := by
  intro s e failed
  rcases h : x s with ⟨e' | a, s'⟩
  · rw [bind_of_error h] at failed
    cases failed
    exact first s e (congrArg Prod.fst h)
  · rw [bind_of_ok h] at failed
    exact next a s' e failed

theorem mapError {rename : ε → δ} {Q : δ → Prop} (x : Attempt σ ε α) (holds : ∀ e, Q (rename e)) :
    FailsOnly Q (x.mapError rename) := by
  intro s e failed
  rcases h : x s with ⟨e' | a, s'⟩
  · rw [mapError_of_error h] at failed
    cases failed
    exact holds e'
  · rw [mapError_of_ok h] at failed
    cases failed

end FailsOnly

end Attempt

namespace LinkError

/-- A failure that only says that something took too long is not kept as a failure of input or
output. -/
def Classified : LinkError → Prop
  | io _ f => f.kind ≠ .timedOut ∧ f.kind ≠ .wouldBlock
  | _ => True

theorem ofIo_classified (stage : ExchangeStage) (timeout : Duration) (f : IoFailure) :
    (ofIo stage timeout f).Classified := by
  unfold ofIo
  split
  case h_6 slow blocked _ _ _ => exact ⟨slow, blocked⟩
  all_goals trivial

end LinkError

def Link.Classifies (link : Link σ) : Prop :=
  ∀ header payload, (link.exchange header payload).FailsOnly LinkError.Classified

namespace PacketLink

variable {pipe : BulkPipe σ} {config : LinkConfig} {buffer : Nat} {timeout : Duration}
  {message : Bytes} {s s' : σ} {events : List PipeEvent} {e : LinkError}

theorem Unsent.classified (h : Unsent pipe timeout message s events e s') : e.Classified := by
  cases h with
  | writeFailed => exact LinkError.ofIo_classified _ _ _
  | shortWrite => trivial
  | emptyPacketFailed => exact LinkError.ofIo_classified _ _ _

theorem Transfer.classified (h : Transfer pipe config buffer message s events (.error e) s') :
    e.Classified := by
  cases h with
  | unsent failed => exact failed.classified
  | readFailed => exact LinkError.ofIo_classified _ _ _
  | malformed => trivial

theorem Exchanged.classified {l l' : PacketLink σ}
    (h : Exchanged pipe l message events (.error e) l') : e.Classified := by
  cases h with
  | refused => exact LinkError.ofIo_classified _ _ _
  | recovered _ _ transferred => exact transferred.classified
  | straight _ transferred => exact transferred.classified

theorem link_classifies (pipe : BulkPipe σ) : (link pipe).Classifies := by
  intro header payload l e failed
  obtain ⟨events, r, l', exchanged, plain, -⟩ := exchange_recorded pipe l header payload
  obtain rfl : r = .error e := (congrArg Prod.fst plain).symm.trans failed
  exact exchanged.classified

end PacketLink

theorem BytePort.readFull_classified (port : BytePort σ) (stage : ExchangeStage)
    (timeout : Duration) (want : Nat) :
    Attempt.FailsOnly LinkError.Classified (port.readFull stage timeout want) := by
  intro s e failed
  induction want, s using BytePort.readFull.induct port stage timeout generalizing e with
  | case1 s =>
    rw [port.readFull_zero] at failed
    cases failed
  | case2 want s hw s' ended =>
    rw [port.readFull_of_ne_zero stage timeout hw, ended] at failed
    cases failed
    trivial
  | case3 want s hw b data s' gave rest s'' rested ih =>
    rw [port.readFull_of_ne_zero stage timeout hw, gave] at failed
    simp only [rested] at failed
    cases failed
  | case4 want s hw b data s' gave e' s'' broke ih =>
    rw [port.readFull_of_ne_zero stage timeout hw, gave] at failed
    simp only [broke] at failed
    cases failed
    exact ih e' (congrArg Prod.fst broke)
  | case5 want s hw e' s' broke passes ih =>
    rw [port.readFull_of_ne_zero stage timeout hw, broke] at failed
    simp only [if_pos passes] at failed
    exact ih e failed
  | case6 want s hw e' s' broke lasts =>
    rw [port.readFull_of_ne_zero stage timeout hw, broke] at failed
    simp only [if_neg lasts] at failed
    cases failed
    exact LinkError.ofIo_classified stage timeout e'

namespace StreamLink

theorem receive_classified (port : BytePort σ) (config : LinkConfig) :
    Attempt.FailsOnly LinkError.Classified (receive port config) := by
  refine (port.readFull_classified _ _ _).bind fun head => ?_
  refine (Attempt.FailsOnly.mapError _ fun _ => trivial).bind fun ⟨header, _⟩ => ?_
  dsimp only
  cases checkPayload header.payloadLength.toNat config.limits.response with
  | error e =>
    rintro s _ ⟨⟩
    trivial
  | ok _ => exact (port.readFull_classified _ _ _).bind fun _ => .pure _

theorem link_classifies (port : BytePort σ) : (link port).Classifies := by
  intro header payload l e failed
  have sent : Attempt.FailsOnly LinkError.Classified
      (send port l.config.timeout (header.bytes ++ payload)) :=
    .mapError _ fun _ => LinkError.ofIo_classified _ _ _
  exact (sent.bind fun _ => receive_classified port l.config) (port.purge l.port).2 e failed

end StreamLink

end PeripheralBridge
