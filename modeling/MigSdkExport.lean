import MigSdkExport.MigrateColumns
import MigSdkExport.MigrateStatements
import MigSdkExport.MigrateSqlRead
import MigSdkExport.MigrateCatalog
import MigSdkExport.MigrateServer
import MigSdkExport.MigrateBatch
import MigSdkExport.MigrateTable
import MigSdkExport.MigrateMain
import MigSdkExport.MigrateUpsert
import MigSdkExport.RecorderValues
import MigSdkExport.SystemInteractions
import MigSdkExport.FlightRecorder
import MigSdkExport.AnalyzerSafety
import MigSdkExport.EventDetails
import MigSdkExport.MigrateFrame
import MigSdkExport.RecorderStore
import MigSdkExport.ReportAccounting
