/-!
# Migrations

The changes that bring an empty database to the tables of the ledger, in order. A migration is known
by its version; its checksum tells whether it is still the one that was applied earlier.
-/
namespace Passbook

structure Migration where
  version : Int
  description : String
  /-- the statements, with blanks collapsed -/
  text : String
  /-- SHA-384 of the statements as they are kept on disk, in hexadecimal digits -/
  checksum : String
deriving DecidableEq, Repr

namespace Migration

def initialTables : Migration :=
  { version := 20240101000001
    description := "init schema"
    text :=
      "CREATE TABLE users ( username VARCHAR PRIMARY KEY, hashed_password VARCHAR NOT " ++
      "NULL, full_name VARCHAR NOT NULL, email VARCHAR UNIQUE NOT NULL, " ++
      "password_changed_at TIMESTAMPTZ NOT NULL DEFAULT '0001-01-01 00:00:00Z', " ++
      "is_email_verified BOOLEAN NOT NULL DEFAULT false, created_at TIMESTAMPTZ NOT NULL " ++
      "DEFAULT NOW() ); CREATE TABLE accounts ( id BIGSERIAL PRIMARY KEY, owner VARCHAR " ++
      "NOT NULL REFERENCES users (username), balance BIGINT NOT NULL, currency VARCHAR NOT " ++
      "NULL, created_at TIMESTAMPTZ NOT NULL DEFAULT NOW(), CONSTRAINT owner_currency_key " ++
      "UNIQUE (owner, currency), CONSTRAINT accounts_balance_non_negative CHECK (balance " ++
      ">= 0) ); CREATE INDEX idx_accounts_owner ON accounts (owner); -- Append-only ledger " ++
      "lines CREATE TABLE entries ( id BIGSERIAL PRIMARY KEY, account_id BIGINT NOT NULL " ++
      "REFERENCES accounts (id), amount BIGINT NOT NULL, created_at TIMESTAMPTZ NOT NULL " ++
      "DEFAULT NOW() ); CREATE INDEX idx_entries_account_id ON entries (account_id); " ++
      "CREATE TABLE transfers ( id BIGSERIAL PRIMARY KEY, from_account_id BIGINT NOT NULL " ++
      "REFERENCES accounts (id), to_account_id BIGINT NOT NULL REFERENCES accounts (id), " ++
      "amount BIGINT NOT NULL CHECK (amount > 0), created_at TIMESTAMPTZ NOT NULL DEFAULT " ++
      "NOW() ); CREATE INDEX idx_transfers_from_account_id ON transfers (from_account_id); " ++
      "CREATE INDEX idx_transfers_to_account_id ON transfers (to_account_id); CREATE INDEX " ++
      "idx_transfers_pair ON transfers (from_account_id, to_account_id);"
    checksum :=
      "9ef16fffb8bf9798e6ba08395e7cf84f72a562ae549383b503a4526fb3c3d155f38b175f0fc9b20297026759999c1184" }

def sessionTables : Migration :=
  { version := 20240101000002
    description := "sessions and verify emails"
    text :=
      "CREATE TABLE sessions ( id UUID PRIMARY KEY, username VARCHAR NOT NULL REFERENCES " ++
      "users (username), refresh_token VARCHAR NOT NULL, user_agent VARCHAR NOT NULL, " ++
      "client_ip VARCHAR NOT NULL, is_blocked BOOLEAN NOT NULL DEFAULT false, expires_at " ++
      "TIMESTAMPTZ NOT NULL, created_at TIMESTAMPTZ NOT NULL DEFAULT NOW() ); CREATE TABLE " ++
      "verify_emails ( id BIGSERIAL PRIMARY KEY, username VARCHAR NOT NULL REFERENCES " ++
      "users (username), email VARCHAR NOT NULL, secret_code VARCHAR NOT NULL, is_used " ++
      "BOOLEAN NOT NULL DEFAULT false, created_at TIMESTAMPTZ NOT NULL DEFAULT NOW(), " ++
      "expired_at TIMESTAMPTZ NOT NULL DEFAULT (NOW() + INTERVAL '15 minutes') );"
    checksum :=
      "7d2a15470d766d11f544430fe71b9037b875b10a72918928f06a14d32df02b022b02deaddca1fdf8d6a03ab78987ec12" }

def all : List Migration := [initialTables, sessionTables]

end Migration
end Passbook
