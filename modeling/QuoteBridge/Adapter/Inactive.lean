import QuoteBridge.Message

/-!
# Updates without a producer

While no producer run is known the consumer is told so by updates made on the spot: a full
snapshot with every number at zero, or only the changed status.
-/

namespace QuoteBridge

/-- The field that tells the status of an item. -/
def statusField : String := "item_status"

/-- The status of an item without a producer. -/
def inactiveStatus : String := "inactive"

/-- The fields that hold numbers. -/
def numericFields : List String :=
  ["time", "last_price", "ask", "bid", "bid_quantity", "ask_quantity", "pct_change", "min", "max",
    "ref_price", "open_price"]

/-- All fields of an item without a producer. -/
def inactiveSnapshot : Fields :=
  ((SortedMap.ofList (numericFields.map (fun n => (n, "0")))).insert "stock_name" "-").insert
    statusField inactiveStatus

/-- The changed field of an item that lost its producer. -/
def inactiveDelta : Fields := .ofList [(statusField, inactiveStatus)]

end QuoteBridge
