import Catalog.Sql.Execute

/-!
# The store's schema

The store's tables, indexes and constraints, written as the statements that create them,
and the database those statements give: twenty tables, the table of sequences, seven
indexes and twenty automatic ones, with the schema version recorded.

Records of every repository share one table, so record ids are unique across repositories;
relations between records (sets, lineage, links, service marks) go with their records
(`ON DELETE CASCADE`). Providers, services, directives, jobs, schedules and their steps
draw ids from sequences that never hand out an id twice (`AUTOINCREMENT`).
-/

namespace Catalog.Store

open Catalog.Sql

/-- The version of the schema. -/
def schemaVersion : Int := 1

/-- The statements that create the store's tables and indexes. -/
def schemaScript : String := "
CREATE TABLE IF NOT EXISTS schema_version (
    version INTEGER PRIMARY KEY,
    applied_at TIMESTAMP NOT NULL DEFAULT CURRENT_TIMESTAMP
);
CREATE TABLE IF NOT EXISTS repositories (
    name TEXT PRIMARY KEY,
    last_modified INTEGER NOT NULL
);
CREATE TABLE IF NOT EXISTS records (
    id INTEGER PRIMARY KEY AUTOINCREMENT,
    repo_name TEXT NOT NULL,
    oai_id TEXT NOT NULL,
    format TEXT NOT NULL,
    record_type TEXT,
    status TEXT NOT NULL DEFAULT 'ACTIVE' CHECK (status IN ('ACTIVE', 'DELETED')),
    payload TEXT NOT NULL DEFAULT '\x7b\x7d',
    visible INTEGER NOT NULL DEFAULT 1,
    batch_id TEXT,
    updated_at INTEGER NOT NULL,
    UNIQUE (repo_name, oai_id)
);
CREATE INDEX IF NOT EXISTS idx_records_repo_updated ON records(repo_name, updated_at);
CREATE INDEX IF NOT EXISTS idx_records_visible ON records(repo_name, visible);
CREATE TABLE IF NOT EXISTS open_batches (
    batch_id TEXT PRIMARY KEY,
    repo_name TEXT NOT NULL,
    opened_at INTEGER NOT NULL
);
CREATE INDEX IF NOT EXISTS idx_records_batch ON records(batch_id);
CREATE TABLE IF NOT EXISTS record_sets (
    record_id INTEGER NOT NULL REFERENCES records(id) ON DELETE CASCADE,
    set_spec TEXT NOT NULL,
    PRIMARY KEY (record_id, set_spec)
);
CREATE TABLE IF NOT EXISTS record_lineage (
    predecessor_id INTEGER NOT NULL REFERENCES records(id) ON DELETE CASCADE,
    successor_id INTEGER NOT NULL REFERENCES records(id) ON DELETE CASCADE,
    PRIMARY KEY (predecessor_id, successor_id)
);
CREATE INDEX IF NOT EXISTS idx_record_lineage_successor ON record_lineage(successor_id);
CREATE TABLE IF NOT EXISTS record_links (
    from_id INTEGER NOT NULL REFERENCES records(id) ON DELETE CASCADE,
    to_id INTEGER NOT NULL REFERENCES records(id) ON DELETE CASCADE,
    PRIMARY KEY (from_id, to_id)
);
CREATE INDEX IF NOT EXISTS idx_record_links_to ON record_links(to_id);
CREATE TABLE IF NOT EXISTS record_processed_by (
    record_id INTEGER NOT NULL REFERENCES records(id) ON DELETE CASCADE,
    service_id INTEGER NOT NULL,
    PRIMARY KEY (record_id, service_id)
);
CREATE TABLE IF NOT EXISTS record_input_for (
    record_id INTEGER NOT NULL REFERENCES records(id) ON DELETE CASCADE,
    service_id INTEGER NOT NULL,
    PRIMARY KEY (record_id, service_id)
);
CREATE INDEX IF NOT EXISTS idx_record_input_for_service ON record_input_for(service_id, record_id);
CREATE TABLE IF NOT EXISTS providers (
    id INTEGER PRIMARY KEY AUTOINCREMENT,
    name TEXT NOT NULL UNIQUE,
    base_url TEXT NOT NULL,
    repo_name TEXT NOT NULL UNIQUE
);
CREATE TABLE IF NOT EXISTS services (
    id INTEGER PRIMARY KEY AUTOINCREMENT,
    name TEXT NOT NULL UNIQUE,
    kind TEXT NOT NULL,
    version TEXT NOT NULL,
    repo_name TEXT NOT NULL UNIQUE,
    status TEXT NOT NULL DEFAULT 'NOT_RUNNING',
    warnings INTEGER NOT NULL DEFAULT 0,
    errors INTEGER NOT NULL DEFAULT 0,
    errors_per_commit INTEGER NOT NULL DEFAULT 0,
    input_record_count INTEGER NOT NULL DEFAULT 0,
    output_record_count INTEGER NOT NULL DEFAULT 0,
    status_changed_at INTEGER NOT NULL
);
CREATE TABLE IF NOT EXISTS processing_directives (
    id INTEGER PRIMARY KEY AUTOINCREMENT,
    source_provider_id INTEGER REFERENCES providers(id) ON DELETE CASCADE,
    source_service_id INTEGER REFERENCES services(id) ON DELETE CASCADE,
    target_service_id INTEGER NOT NULL REFERENCES services(id) ON DELETE CASCADE,
    output_set TEXT,
    CHECK ((source_provider_id IS NULL) <> (source_service_id IS NULL))
);
CREATE TABLE IF NOT EXISTS directive_formats (
    directive_id INTEGER NOT NULL REFERENCES processing_directives(id) ON DELETE CASCADE,
    format TEXT NOT NULL,
    PRIMARY KEY (directive_id, format)
);
CREATE TABLE IF NOT EXISTS directive_sets (
    directive_id INTEGER NOT NULL REFERENCES processing_directives(id) ON DELETE CASCADE,
    set_spec TEXT NOT NULL,
    PRIMARY KEY (directive_id, set_spec)
);
CREATE TABLE IF NOT EXISTS jobs (
    id INTEGER PRIMARY KEY AUTOINCREMENT,
    service_id INTEGER NOT NULL,
    output_set TEXT,
    job_kind TEXT NOT NULL,
    job_order INTEGER NOT NULL UNIQUE,
    created_at INTEGER NOT NULL
);
CREATE TABLE IF NOT EXISTS record_types (
    service_id INTEGER NOT NULL REFERENCES services(id) ON DELETE CASCADE,
    name TEXT NOT NULL,
    priority INTEGER NOT NULL,
    PRIMARY KEY (service_id, name)
);
CREATE TABLE IF NOT EXISTS id_counters (
    scope TEXT NOT NULL,
    name TEXT NOT NULL,
    next_value INTEGER NOT NULL,
    PRIMARY KEY (scope, name)
);
CREATE TABLE IF NOT EXISTS match_points (
    scope TEXT NOT NULL,
    matcher TEXT NOT NULL,
    match_key TEXT NOT NULL,
    record_id INTEGER NOT NULL,
    PRIMARY KEY (scope, matcher, match_key, record_id)
);
CREATE INDEX IF NOT EXISTS idx_match_points_record ON match_points(scope, matcher, record_id);
CREATE TABLE IF NOT EXISTS harvest_schedules (
    id INTEGER PRIMARY KEY AUTOINCREMENT,
    name TEXT NOT NULL UNIQUE,
    provider_id INTEGER NOT NULL REFERENCES providers(id) ON DELETE CASCADE
);
CREATE TABLE IF NOT EXISTS harvest_schedule_steps (
    id INTEGER PRIMARY KEY AUTOINCREMENT,
    schedule_id INTEGER NOT NULL REFERENCES harvest_schedules(id) ON DELETE CASCADE,
    step_order INTEGER NOT NULL,
    format TEXT NOT NULL,
    set_spec TEXT,
    last_ran INTEGER,
    UNIQUE (schedule_id, step_order)
);
INSERT OR IGNORE INTO schema_version (version) VALUES (1);
"

/-- The time the store's clock shows, in milliseconds since the epoch. -/
def storeClock : Int := 1760000000000

/-- The database the schema gives: every table and index, no rows but the schema version. -/
def initialTables : Database :=
  ((runScript schemaScript { db := ⟨[], []⟩, clock := storeClock }).1).getD ⟨[], []⟩

end Catalog.Store
