import Groundwork.CommandLine.Diagnosis
import Groundwork.Settings

/-!
# The system domain

The shared setting that names the domain under which the services are exposed.  It has a computed
default, a name that resolves to the first node address without any set-up, and it may not stay
empty.
-/

namespace Groundwork.CommandLine

/-- The name of the setting. -/
def systemDomain : String := "system_domain"

/-- A domain that resolves to the first address of a node. -/
def domainOfFirstAddress : DynamicDefault := fun facts =>
  .ok (facts.externalIps.head?.map fun ip => .string (ip ++ ".nip.io"))

/-- Gives the system domain its computed default, where the platform declares it. -/
def attachDefaults (ss : Settings) : Settings :=
  ss.modify systemDomain .shared fun s => { s with dynamic := some domainOfFirstAddress }

/-- Refuses an empty system domain, where the platform declares it. -/
def requireDomain (ss : Settings) : Except Diagnosis Unit :=
  match ss.get? systemDomain none with
  | some s =>
    if s.value.isEmpty then
      .error (.setting "no system_domain given and none could be derived from the node addresses"
        (some "Pass --system-domain <domain>, or give a node an ExternalIP"))
    else .ok ()
  | none => .ok ()

end Groundwork.CommandLine
