/-!
# The schema

The statements that create the devices table and its indexes where they are
missing.
-/

namespace Stockroom

def schemaLines : List String :=
  ["CREATE TABLE IF NOT EXISTS devices (",
   "    id          UUID PRIMARY KEY,",
   "    name        VARCHAR(255) NOT NULL,",
   "    brand       VARCHAR(255) NOT NULL,",
   "    state       VARCHAR(32)  NOT NULL DEFAULT 'available'",
   "                CHECK (state IN ('available', 'in-use', 'inactive')),",
   "    created_at  TIMESTAMPTZ  NOT NULL DEFAULT NOW(),",
   "    updated_at  TIMESTAMPTZ  NOT NULL DEFAULT NOW()",
   ");",
   "",
   "CREATE INDEX IF NOT EXISTS idx_devices_created_at_id ON devices (created_at, id);",
   "CREATE INDEX IF NOT EXISTS idx_devices_brand ON devices (brand);",
   "CREATE INDEX IF NOT EXISTS idx_devices_state ON devices (state);",
   "CREATE INDEX IF NOT EXISTS idx_devices_name_fts",
   "    ON devices USING GIN (to_tsvector('simple', name));"]

def schema : String := String.join (schemaLines.map (· ++ "\n"))

end Stockroom
