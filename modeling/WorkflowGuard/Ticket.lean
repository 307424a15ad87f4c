import WorkflowGuard.Instant.Text
import WorkflowGuard.Json.Record
import WorkflowGuard.Json.Writer
import WorkflowGuard.TicketId

/-!
# Tickets

A ticket, as the rules see it, has a few typed attributes and a payload of custom fields that
stays a text until a rule asks for a field.
-/

namespace WorkflowGuard

/-- A ticket at one moment of its life. -/
structure Ticket where
  id : TicketId
  /-- The kind of ticket; it selects the rules. -/
  domain : String
  status : String
  createdAt : Instant
  /-- When the ticket must be completed, if there is such a time. -/
  target : Option Instant
  payload : String
  deriving DecidableEq, Repr

namespace Ticket

/-- The payload of a ticket without custom fields. -/
def emptyPayload : String :=
  "\x7b\x7d"

def new (id : TicketId) (createdAt : Instant) (domain status : String) : Ticket where
  id := id
  domain := domain
  status := status
  createdAt := createdAt
  target := none
  payload := emptyPayload

/-- The names of the fields in their order. -/
def fieldNames : List String :=
  ["id", "domain", "status", "created_at", "completion_target", "custom_fields"]

/-- The ticket as data; a missing target is `null`. -/
def toValue (ticket : Ticket) : Json.Value :=
  .object
    [("id", .text ticket.id.write),
      ("domain", .text ticket.domain),
      ("status", .text ticket.status),
      ("created_at", .text ticket.createdAt.write),
      ("completion_target", (ticket.target.map fun target => .text target.write).getD .null),
      ("custom_fields", .text ticket.payload)]

def instantOfNode? (node : Json.Node) : Option Instant :=
  node.text?.bind Instant.read?

/-- Reads a ticket; one without an identifier gets the given fresh one. -/
def ofNode? (fresh : TicketId) : Nat → Json.Node → Option Ticket :=
  Json.Node.record? fieldNames fun _ fields => do
    let id ← Json.Node.fieldOr? fields "id" fresh (·.text?.bind TicketId.read?)
    let domain ← Json.Node.required? fields "domain" (·.text?)
    let status ← Json.Node.required? fields "status" (·.text?)
    let createdAt ← Json.Node.required? fields "created_at" instantOfNode?
    let target ← Json.Node.fieldOr? fields "completion_target" none
      (·.optional? instantOfNode?)
    let payload ← Json.Node.fieldOr? fields "custom_fields" emptyPayload (·.text?)
    return { id, domain, status, createdAt, target, payload }

end Ticket

end WorkflowGuard
