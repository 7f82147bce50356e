import ZoneKeeper.Json.Number

namespace ZoneKeeper.RecordSet

def addressRecords (priority : Double) (ip : Text) : Json :=
  .array [.object [("priority", .ofDouble priority), ("value", .string ip)]]

/-- The record set with its address records replaced by a single one. -/
def withAddress (records : Members) (priority : Double) (ip : Text) : Members :=
  records.insert "A" (addressRecords priority ip)

end ZoneKeeper.RecordSet
