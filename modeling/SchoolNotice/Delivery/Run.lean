import SchoolNotice.Delivery.Batch
import SchoolNotice.Delivery.Office

/-!
Runs of an office: a sequence of commands that change it, ask it something or deliver a notice. Each
command gives an answer and leaves the office for the next.
-/

namespace SchoolNotice

structure Site where
  dispatcher : Dispatcher
  office : Office

inductive Change where
  | sender (sender : Option String)
  | concurrency (concurrency : Nat)
  | registry (registry : Registry)
  | clock (clock : Instant)
  | mailer (mailer : Mailer)

inductive FaultTarget where
  | templates
  | tenants
  | logs
deriving DecidableEq, Repr

inductive Command where
  | configure (changes : List Change)
  | addTemplate (template : StoredTemplate)
  | addProfile (tenant : Uuid) (profile : Profile)
  | setFailing (target : FaultTarget) (failing : Bool)
  | failFor (address : String)
  | refuse (address : String)
  | setDelay (milliseconds : Nat)
  | cancel
  | renew
  /-- The service with whose next answer deliveries are cancelled, or none. -/
  | arm (service : Option Collaborator)
  | now
  | findActive (notice : Notice)
  | findProfile (tenant : Uuid)
  | select (notice : Notice)
  | preview (notice : Notice) (context : Context)
  /-- Deliveries are cancelled after the time given, if they take so long. -/
  | dispatch (notice : Notice) (recipient : Recipient) (alarm : Option Nat)
  | batch (notice : Notice) (recipients : List Recipient) (alarm : Option Nat)

inductive Answer where
  | done
  | now (clock : Instant)
  | templates (found : Except StoreError (List StoredTemplate))
  | profile (found : Except StoreError (Option Profile))
  | selected (selected : Except DeliveryError Selected)
  | preview (rendered : Except DeliveryError Rendered)
  | outcome (outcome : Outcome)
  /-- The outcomes with the addresses of the recipients. -/
  | outcomes (outcomes : List (String × Outcome))

namespace Site

def empty : Site := ⟨Dispatcher.standard, Office.empty⟩

def change (site : Site) : Change → Site
  | .sender sender => { site with dispatcher := site.dispatcher.withSender sender }
  | .concurrency concurrency =>
      { site with dispatcher := site.dispatcher.withConcurrency concurrency }
  | .registry registry => { site with dispatcher := { site.dispatcher with registry := registry } }
  | .clock clock => { site with office := { site.office with clock := clock } }
  | .mailer mailer => { site with office := { site.office with mailer := mailer } }

def setFailing (office : Office) (failing : Bool) : FaultTarget → Office
  | .templates => { office with templatesFail := failing }
  | .tenants => { office with tenantsFail := failing }
  | .logs => { office with logsFail := failing }

/-- The office with its alarm set for deliveries that begin now. -/
def withAlarm (alarm : Option Nat) (office : Office) : Office :=
  { office with elapsed := 0, alarm := alarm }

def perform (site : Site) (command : Command) : Answer × Site :=
  let office := site.office
  match command with
  | .configure changes => (.done, changes.foldl change site)
  | .addTemplate template =>
      (.done, { site with office := { office with templates := office.templates ++ [template] } })
  | .addProfile tenant profile =>
      let profiles := (tenant, profile) :: office.profiles
      (.done, { site with office := { office with profiles := profiles } })
  | .setFailing target failing => (.done, { site with office := setFailing office failing target })
  | .failFor address =>
      (.done, { site with office := { office with failing := address :: office.failing } })
  | .refuse address =>
      (.done, { site with office := { office with refused := address :: office.refused } })
  | .setDelay milliseconds => (.done, { site with office := { office with delay := milliseconds } })
  | .cancel => (.done, { site with office := { office with cancelled := true } })
  | .renew => (.done, { site with office := office.renewed })
  | .arm service => (.done, { site with office := { office with armed := service } })
  | .now => (.now office.clock, site)
  | .findActive notice =>
      let (found, office) := office.findActive notice.tenant notice.kind
      (.templates found, { site with office := office })
  | .findProfile tenant =>
      let (found, office) := office.findProfile tenant
      (.profile found, { site with office := office })
  | .select notice =>
      let (selected, office) := site.dispatcher.select notice office
      (.selected selected, { site with office := office })
  | .preview notice context =>
      let (rendered, office) := site.dispatcher.preview notice context office
      (.preview rendered, { site with office := office })
  | .dispatch notice recipient alarm =>
      let (outcome, office) := site.dispatcher.dispatch notice recipient (withAlarm alarm office)
      (.outcome outcome, { site with office := withAlarm none office })
  | .batch notice recipients alarm =>
      let (outcomes, office) := site.dispatcher.batch notice recipients (withAlarm alarm office)
      (.outcomes ((recipients.map Recipient.address).zip outcomes),
        { site with office := withAlarm none office })

def run (site : Site) (commands : List Command) : Site :=
  commands.foldl (fun site command => (site.perform command).2) site

end Site

end SchoolNotice
