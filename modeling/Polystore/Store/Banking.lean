import Polystore.Store.Registry

/-!
# Banking sample data

Accounts and customers in a relational and a document store, and each of them
under a key of its own in a key-value store.
-/

namespace Polystore.Banking

def account (id customer kind : String) (balance : Float) : Row :=
  .ofList [("id", .string id), ("customer_id", .string customer),
    ("account_type", .string kind), ("balance", .float balance)]

/-- A customer of the United States. -/
def customer (id name email : String) : Row :=
  .ofList [("id", .string id), ("name", .string name), ("email", .string email),
    ("country", .string "USA")]

/-- A movement on an account. -/
def transaction (id account kind : String) (amount : Float) : Row :=
  .ofList [("id", .string id), ("account_id", .string account),
    ("type", .string kind), ("amount", .float amount)]

def accounts : List Row := [
  account "ACC001" "CUST001" "Checking" 5250.75,
  account "ACC002" "CUST001" "Savings" 25000.0,
  account "ACC003" "CUST002" "Checking" 3500.5,
  account "ACC004" "CUST002" "Business" 150000.0,
  account "ACC005" "CUST003" "Checking" 1200.25]

def customers : List Row := [
  customer "CUST001" "John Smith" "john@example.com",
  customer "CUST002" "Sarah Johnson" "sarah@example.com",
  customer "CUST003" "Michael Brown" "michael@example.com"]

def transactions : List Row := [
  transaction "TXN001" "ACC001" "Debit" 120.0,
  transaction "TXN002" "ACC002" "Credit" 5000.0,
  transaction "TXN003" "ACC004" "Debit" 20000.0]

/-- The entry of an entity, under a key made of its kind and its identifier. -/
def keyed (kind : String) (entity : Row) : String × Json :=
  let id := match entity.get? "id" with
    | some (.string id) => id
    | _ => ""
  (kind ++ ":" ++ id, .object entity)

/-- The three stores of the sample. -/
def registry : Registry := ⟨[
  .ofBackend (.single "postgres" .relational)
    (.relational (.ofList [("accounts", accounts), ("customers", customers),
      ("transactions", transactions)])),
  .ofBackend (.single "mongo" .document)
    (.document (.ofList [("accounts", accounts), ("customers", customers)])),
  .ofBackend (.single "redis" .keyValue)
    (.keyValue (.ofList
      (accounts.map (keyed "account") ++ customers.map (keyed "customer"))))]⟩

end Polystore.Banking
