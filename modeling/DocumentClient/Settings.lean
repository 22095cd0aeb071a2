/-
  Settings — the intervals and bounds of the client.

  `Settings` has a value for each of them, `Overrides` for some;
  `Settings.overriddenBy` lets the given ones take the place of the others.
-/
import DocumentClient.Invalid

namespace DocumentClient

/-- The settings of the client, in milliseconds. -/
structure Settings where
  /-- How long a cursor waits before it asks again for new documents. -/
  pollInterval : Nat
  /-- How long one request may last; zero for no bound. -/
  requestTimeout : Nat
  deriving DecidableEq

/-- Settings that take the place of others. -/
structure Overrides where
  pollInterval : Option Int := none
  requestTimeout : Option Int := none

namespace Settings

/-- The settings of two numbers, if neither is negative. -/
def of (pollInterval requestTimeout : Int) : Except Invalid Settings :=
  if pollInterval < 0 then .error .negativePollInterval
  else if requestTimeout < 0 then .error .negativeRequestTimeout
  else .ok ⟨pollInterval.toNat, requestTimeout.toNat⟩

/-- What holds unless it is overridden. -/
def default : Settings := ⟨100, 10000⟩

/-- The settings with some of them overridden. -/
def overriddenBy (s : Settings) : Option Overrides → Except Invalid Settings
  | none => .ok s
  | some o => of (o.pollInterval.getD s.pollInterval) (o.requestTimeout.getD s.requestTimeout)

end Settings

/-- One overriding setting inside a message. -/
def Overrides.shownSetting : Option Int → String
  | some n => toString n
  | none => "(unset)"

end DocumentClient
